import LintBridge.Proofs.Settings.Effective
import LintBridge.Proofs.Settings.Persistence

/-!
# The settings after any calls

A store answers with the values that are in force, if those of the four known keys have the types
that are expected (`Settings.Gives`), and with the defaults otherwise. Which values are in force is
said from the calls alone: the global layer is the one at first with the executable that was set
last, and the client layer is what stands in the last payload, without an executable if one was set
after that payload (`SettingsStore.IsClientLayer`). So payloads before the last one have no say, and
neither have keys that are not known.

What is asked of layers and payloads here is what holds of every JSON value (`Json.IsProper`).

## Main definitions

* `Json.IsProper` — a value has its fields in order and its whole numbers within 64 bits.
* `Settings.IsLayerOf` — the layer that a payload stands for.
* `Settings.Gives` — the values of the known keys are some settings.
* `SettingsStore.IsClientLayer` — the client layer that some calls have left.

## Main results

* `Settings.effective_of_layers` — the settings are the values in force, or the defaults.
* `SettingsStore.layers_run` — what the layers are after any calls.
* `SettingsStore.effective_after_calls` — the settings after any calls.
-/

namespace LintBridge

/-! ### Values -/

namespace Json

variable {fields : Fields} {key : String} {v : Json}

theorem mem_of_get? (h : Fields.get? key fields = some v) : (key, v) ∈ fields := by
  induction fields with
  | nil => cases h
  | cons p rest ih =>
    obtain ⟨k, w⟩ := p
    rw [Fields.get?] at h
    split at h
    · next hk =>
      obtain rfl := Option.some.inj h
      exact hk ▸ List.mem_cons_self
    · exact List.mem_cons_of_mem _ (ih h)

/-- A whole number has 64 bits. -/
def FitsWord : Json → Prop
  | .int n => Decimal.minLong ≤ n ∧ n ≤ Decimal.maxLong
  | _ => True

/-- The value has its fields in order and its whole numbers within 64 bits, as JSON values do. -/
def IsProper (j : Json) : Prop := All IsSorted j ∧ All FitsWord j

theorem isProper_obj :
    IsProper (.obj fields) ↔ Fields.Ascending fields ∧ ∀ p ∈ fields, p.2.IsProper := by
  simp only [IsProper, all_obj, FitsWord, true_and, IsSorted, and_assoc, forall_and]

theorem IsSingle.isProper (single : IsSingle v) (word : FitsWord v) : IsProper v :=
  ⟨single.all_isSorted, single.all word⟩

theorem isProper_str (s : String) : IsProper (.str s) := IsSingle.isProper trivial trivial

theorem isProper_nil : IsProper (.obj []) := isProper_obj.mpr ⟨List.Pairwise.nil, by simp⟩

theorem IsProper.ascending (h : IsProper (.obj fields)) : Fields.Ascending fields :=
  (isProper_obj.mp h).1

theorem IsProper.field (h : IsProper (.obj fields)) (hget : Fields.get? key fields = some v) :
    IsProper v :=
  (isProper_obj.mp h).2 _ (mem_of_get? hget)

theorem IsProper.insert (h : IsProper (.obj fields)) (hv : IsProper v) :
    IsProper (.obj (Fields.insert key v fields)) := by
  refine isProper_obj.mpr ⟨h.ascending.insert, fun p hp => ?_⟩
  rcases Fields.mem_insert hp with rfl | hp
  · exact hv
  · exact (isProper_obj.mp h).2 p hp

theorem IsProper.erase (h : IsProper (.obj fields)) : IsProper (.obj (Fields.erase key fields)) :=
  isProper_obj.mpr ⟨h.ascending.erase, fun p hp =>
    (isProper_obj.mp h).2 p ((Fields.erase_sublist key fields).subset hp)⟩

end Json

/-! ### The values in force -/

namespace Settings

variable {globalLayer clientLayer layer : Fields} {payload v : Json} {key : String} {s : Settings}

/-- The keys of settings. -/
def knownKeys : List String := [pathKey, lintOnChangeKey, timeoutKey, passConfigDirKey]

/-- The layer that a payload stands for. -/
inductive IsLayerOf : Json → Fields → Prop
  /-- The object under the section's key. -/
  | named {fields inner : Fields} (h : fields.get? sectionKey = some (.obj inner)) :
    IsLayerOf (.obj fields) inner
  /-- Nothing, if something else stands there. -/
  | misfit {fields : Fields} {v : Json} (h : fields.get? sectionKey = some v)
    (other : ∀ inner, v ≠ .obj inner) : IsLayerOf (.obj fields) []
  /-- The whole object, if it has no such key. -/
  | whole {fields : Fields} (h : fields.get? sectionKey = none) : IsLayerOf (.obj fields) fields
  /-- Nothing, if the payload is no object. -/
  | other {payload : Json} (h : ∀ fields, payload ≠ .obj fields) : IsLayerOf payload []

theorem IsLayerOf.eq (h : IsLayerOf payload layer) : (section? payload).getD [] = layer := by
  cases h with
  | named h => simp only [section?, h, Json.fields?, Option.getD_some]
  | @misfit fields v h other =>
    simp only [section?, h]
    cases v with
    | obj inner => exact absurd rfl (other inner)
    | _ => rfl
  | whole h => simp only [section?, h, Option.getD_some]
  | other h =>
    cases payload with
    | obj fields => exact absurd rfl (h fields)
    | _ => rfl

/-- Every payload stands for a layer. -/
theorem isLayerOf_section? (payload : Json) : IsLayerOf payload ((section? payload).getD []) := by
  cases payload with
  | obj fields =>
    cases h : Fields.get? sectionKey fields with
    | none => simpa only [section?, h, Option.getD_some] using IsLayerOf.whole h
    | some v =>
      simp only [section?, h]
      cases v with
      | obj inner => exact .named h
      | _ => exact .misfit h nofun
  | _ => exact .other nofun

theorem IsLayerOf.isProper (h : IsLayerOf payload layer) (proper : payload.IsProper) :
    Json.IsProper (.obj layer) := by
  cases h with
  | named h => exact proper.field h
  | whole => exact proper
  | misfit | other => exact Json.isProper_nil

/-- The values of the known keys are these settings. -/
structure Gives (values : String → Option Json) (s : Settings) : Prop where
  /-- No value for the executable means that none is set. -/
  path : values pathKey = s.path.map .str
  lintOnChange : values lintOnChangeKey = some (.bool s.lintOnChange)
  timeoutMs : values timeoutKey = some (.int s.timeoutMs)
  timeoutMs_le : s.timeoutMs ≤ Decimal.maxLong
  passConfigDir : values passConfigDirKey = some (.bool s.passConfigDir)

theorem default_toFields : default.toFields =
    [(lintOnChangeKey, .bool false), (passConfigDirKey, .bool false),
      (timeoutKey, .int defaultTimeoutMs)] := by
  rfl

theorem get?_of_set? (h : set? layer key = some v) :
    layer.get? key = some v ∧ isUnset v = false := by
  simpa [set?, Option.filter_eq_some_iff] using h

/-- What is in force is neither `null` nor too large a number. -/
theorem valueInForce?_fits (hglobal : Json.IsProper (.obj globalLayer))
    (hclient : Json.IsProper (.obj clientLayer))
    (h : valueInForce? globalLayer clientLayer key = some v) : v ≠ .null ∧ v.FitsWord := by
  have ofLayer {layer : Fields} (proper : Json.IsProper (.obj layer))
      (h : set? layer key = some v) : v ≠ .null ∧ v.FitsWord := by
    obtain ⟨hget, hset⟩ := get?_of_set? h
    refine ⟨?_, (proper.field hget).2.self⟩
    rintro rfl
    cases hset
  rw [valueInForce?, Option.or_eq_some_iff, Option.or_eq_some_iff] at h
  rcases h with h | ⟨-, h | ⟨-, h⟩⟩
  · exact ofLayer hclient h
  · exact ofLayer hglobal h
  · have hmem := Json.mem_of_get? h
    rw [default_toFields] at hmem
    simp only [List.mem_cons, Prod.mk.injEq, List.not_mem_nil, or_false] at hmem
    rcases hmem with ⟨-, rfl⟩ | ⟨-, rfl⟩ | ⟨-, rfl⟩
    · exact ⟨by simp, trivial⟩
    · exact ⟨by simp, trivial⟩
    · exact ⟨by simp, by decide, by decide⟩

/-- Only for the executable there may be nothing in force. -/
theorem isSome_valueInForce? (h : (default.toFields.get? key).isSome) :
    (valueInForce? globalLayer clientLayer key).isSome := by
  simp [valueInForce?, h]

theorem switch?_eq_some_iff {value : Option Json} {fallback b : Bool} (h : value.isSome) :
    switch? fallback value = some b ↔ value = some (.bool b) := by
  obtain ⟨v, rfl⟩ := Option.isSome_iff_exists.mp h
  cases v <;> simp [switch?]

theorem count?_eq_some_iff {value : Option Json} {fallback n : Nat} (h : value.isSome) :
    count? fallback value = some n ↔ value = some (.int n) := by
  obtain ⟨v, rfl⟩ := Option.isSome_iff_exists.mp h
  cases v with
  | int k =>
    cases k with
    | ofNat k =>
      simp only [count?, Option.some_inj, Json.int.injEq, Int.ofNat_eq_natCast, Int.natCast_inj]
    | negSucc k => simp [count?]
  | _ => simp [count?]

theorem optionalText?_eq_some_iff {value : Option Json} {text : Option String}
    (h : value ≠ some .null) : optionalText? value = some text ↔ value = text.map .str := by
  cases text <;> cases value with
  | none => simp [optionalText?]
  | some v => cases v <;> simp_all [optionalText?]

/-- The settings that the layers give together are the values in force. -/
theorem ofFields?_layers_eq_some_iff (hglobal : Json.IsProper (.obj globalLayer))
    (hclient : Json.IsProper (.obj clientLayer)) :
    ofFields? (overlay (overlay default.toFields globalLayer) clientLayer) = some s ↔
      Gives (valueInForce? globalLayer clientLayer) s := by
  have hpath : valueInForce? globalLayer clientLayer pathKey ≠ some .null := fun h =>
    (valueInForce?_fits hglobal hclient h).1 rfl
  have hlint : (valueInForce? globalLayer clientLayer lintOnChangeKey).isSome :=
    isSome_valueInForce? rfl
  have htimeout : (valueInForce? globalLayer clientLayer timeoutKey).isSome :=
    isSome_valueInForce? rfl
  have hconfig : (valueInForce? globalLayer clientLayer passConfigDirKey).isSome :=
    isSome_valueInForce? rfl
  simp only [ofFields?, get?_layers hglobal.ascending hclient.ascending, Option.bind_eq_bind,
    Option.bind_eq_some_iff, optionalText?_eq_some_iff hpath, switch?_eq_some_iff hlint,
    count?_eq_some_iff htimeout, switch?_eq_some_iff hconfig, Option.some.injEq]
  constructor
  · rintro ⟨path, hpath, lint, hlint, limit, hlimit, config, hconfig, rfl⟩
    have hle := (valueInForce?_fits hglobal hclient hlimit).2.2
    exact ⟨hpath, hlint, hlimit, Int.ofNat_le.mp hle, hconfig⟩
  · intro gives
    exact ⟨_, gives.path, _, gives.lintOnChange, _, gives.timeoutMs, _, gives.passConfigDir, rfl⟩

/-- **The settings are the values in force**, or the defaults if these have not all the types that
are expected. -/
theorem effective_of_layers (hglobal : Json.IsProper (.obj globalLayer))
    (hclient : Json.IsProper (.obj clientLayer)) :
    (∀ s, Gives (valueInForce? globalLayer clientLayer) s → effective globalLayer clientLayer = s) ∧
      ((∀ s, ¬ Gives (valueInForce? globalLayer clientLayer) s) →
        effective globalLayer clientLayer = default) := by
  simp only [← ofFields?_layers_eq_some_iff hglobal hclient, effective]
  constructor
  · intro s hs
    rw [hs, Option.getD_some]
  · intro none
    rw [Option.eq_none_iff_forall_ne_some.mpr none, Option.getD_none]

/-- What is in force for a key depends on what the layers have for it. -/
theorem valueInForce?_congr {globalLayer' clientLayer' : Fields}
    (hglobal : globalLayer'.get? key = globalLayer.get? key)
    (hclient : clientLayer'.get? key = clientLayer.get? key) :
    valueInForce? globalLayer' clientLayer' key = valueInForce? globalLayer clientLayer key := by
  rw [valueInForce?, set?, set?, hglobal, hclient]
  rfl

/-- Values of other keys than the known ones do not matter. -/
theorem Gives.congr {values values' : String → Option Json}
    (h : ∀ key ∈ knownKeys, values' key = values key) : Gives values' s ↔ Gives values s := by
  have hpath := h pathKey (by simp [knownKeys])
  have hlint := h lintOnChangeKey (by simp [knownKeys])
  have htimeout := h timeoutKey (by simp [knownKeys])
  have hconfig := h passConfigDirKey (by simp [knownKeys])
  constructor
  · rintro ⟨h₁, h₂, h₃, hle, h₄⟩
    exact ⟨hpath ▸ h₁, hlint ▸ h₂, htimeout ▸ h₃, hle, hconfig ▸ h₄⟩
  · rintro ⟨h₁, h₂, h₃, hle, h₄⟩
    exact ⟨hpath.trans h₁, hlint.trans h₂, htimeout.trans h₃, hle, hconfig.trans h₄⟩

end Settings

/-! ### The layers after some calls -/

namespace SettingsStore

open Settings

variable {first client client' : Fields} {calls : List Call} {call : Call} {k : Kept}
  {t : Files} {cwd : Place} {file? : Option Path} {key : String}

/-- The payload that a call brings. -/
def Call.payload? : Call → Option Json
  | .updateClient payload => some payload
  | _ => none

/-- The layer has for each key what is in the last payload of some calls. After that payload, the
executable was set in no call, or the layer has none. Without a payload the layer has nothing. -/
structure IsClientLayer (calls : List Call) (layer : Fields) : Prop where
  silent : (∀ call ∈ calls, call.payload? = none) → ∀ key, layer.get? key = none
  sent : ∀ before payload after sent, calls = before ++ .updateClient payload :: after →
    (∀ call ∈ after, call.payload? = none) → IsLayerOf payload sent →
      ∀ key, layer.get? key =
        if key = pathKey ∧ (lastPath? after).isSome then none else sent.get? key

/-- The calls bring no payload, or there is a last one. -/
theorem silent_or_sent (calls : List Call) :
    (∀ call ∈ calls, call.payload? = none) ∨
      ∃ before payload after, calls = before ++ .updateClient payload :: after ∧
        ∀ call ∈ after, call.payload? = none := by
  induction calls with
  | nil => exact .inl (by simp)
  | cons call calls ih =>
    rcases ih with silent | ⟨before, payload, after, rfl, silent⟩
    · cases hpayload : call.payload? with
      | none => exact .inl (List.forall_mem_cons.mpr ⟨hpayload, silent⟩)
      | some payload =>
        refine .inr ⟨[], payload, calls, ?_, silent⟩
        cases call with
        | updateClient => cases hpayload; rfl
        | current | setPath => cases hpayload
    · exact .inr ⟨call :: before, payload, after, rfl, silent⟩

/-- The calls say all about the client layer. -/
theorem IsClientLayer.get?_eq (h : IsClientLayer calls client) (h' : IsClientLayer calls client')
    (key : String) : client'.get? key = client.get? key := by
  rcases silent_or_sent calls with silent | ⟨before, payload, after, hcalls, silent⟩
  · rw [h.silent silent, h'.silent silent]
  · have layer := isLayerOf_section? payload
    rw [h.sent _ _ _ _ hcalls silent layer, h'.sent _ _ _ _ hcalls silent layer]

/-- The last of some calls is at one place of them, or after it. -/
theorem concat_eq_append_cons {call' : Call} {before after : List Call}
    (h : calls ++ [call] = before ++ call' :: after) :
    calls = before ∧ call = call' ∧ after = [] ∨
      ∃ after', after = after' ++ [call] ∧ calls = before ++ call' :: after' := by
  rcases List.eq_nil_or_concat after with rfl | ⟨after', last, rfl⟩
  · obtain ⟨rfl, hlast⟩ := List.append_inj' h rfl
    exact .inl ⟨rfl, List.singleton_inj.mp hlast, rfl⟩
  · rw [List.concat_eq_append, ← List.cons_append, ← List.append_assoc] at h
    obtain ⟨rfl, hlast⟩ := List.append_inj' h rfl
    exact .inr ⟨after', by rw [List.concat_eq_append, List.singleton_inj.mp hlast], rfl⟩

/-- A payload replaces the client layer. -/
theorem IsClientLayer.update {payload : Json} {sent : Fields} (layer : IsLayerOf payload sent) :
    IsClientLayer (calls ++ [.updateClient payload]) sent where
  silent h := absurd (h (.updateClient payload) (by simp)) nofun
  sent before payload' after sent' heq silent layer' key := by
    rcases concat_eq_append_cons heq with ⟨-, hcall, rfl⟩ | ⟨after', rfl, -⟩
    · obtain rfl := Call.updateClient.inj hcall
      have hnone : ¬ (lastPath? []).isSome := Bool.false_ne_true
      rw [← layer.eq, ← layer'.eq, if_neg fun h => hnone h.2]
    · exact absurd (silent (.updateClient payload) (by simp)) nofun

/-- A call without a payload changes at most the executable. -/
theorem IsClientLayer.quiet (h : IsClientLayer calls client) (quiet : call.payload? = none)
    (change : ∀ key, client'.get? key =
      if key = pathKey ∧ call.path?.isSome then none else client.get? key) :
    IsClientLayer (calls ++ [call]) client' where
  silent hsilent key := by
    rw [change, h.silent (fun c hc => hsilent c (List.mem_append_left _ hc)), ite_self]
  sent before payload after sent heq silent layer key := by
    rcases concat_eq_append_cons heq with ⟨-, rfl, -⟩ | ⟨after', rfl, rfl⟩
    · cases quiet
    · have hsent := h.sent before payload after' sent rfl
        (fun c hc => silent c (List.mem_append_left _ hc)) layer key
      rw [change, hsent, lastPath?_concat]
      by_cases hkey : key = pathKey
      · cases call.path? <;> simp [hkey]
      · simp [hkey]

/-- A store with a global layer, to which nothing was sent. -/
def holding (file? : Option Path) (first : Fields) (t : Files) : Kept :=
  ⟨⟨file?, first, []⟩, t, none⟩

/-- What the layers of a store are after some calls, if the global layer was `first`. -/
structure Holds (first : Fields) (calls : List Call) (s : SettingsStore) : Prop where
  globalLayer_eq : s.globalLayer = withLast first (lastPath? calls)
  isClientLayer : IsClientLayer calls s.clientLayer
  proper_global : Json.IsProper (.obj s.globalLayer)
  proper_client : Json.IsProper (.obj s.clientLayer)

theorem store_setPath (s : SettingsStore) (t : Files) (cwd : Place) (path : String) :
    (s.setPath t cwd path).1 = s.withPath path := by
  rw [setPath.eq_def]
  cases h : (s.withPath path).file <;> simp only [h]

/-- **What a call does to the layers.** -/
theorem Holds.after (h : Holds first calls k.store)
    (proper : ∀ payload, call = .updateClient payload → payload.IsProper) :
    Holds first (calls ++ [call]) (k.after cwd call).store := by
  obtain ⟨hglobal, hclient, pglobal, pclient⟩ := h
  cases call with
  | current =>
    refine ⟨by rw [lastPath?_concat]; exact hglobal, hclient.quiet rfl fun key => ?_,
      pglobal, pclient⟩
    rw [if_neg fun h => Bool.false_ne_true h.2]
    rfl
  | updateClient payload =>
    have layer := isLayerOf_section? payload
    exact ⟨by rw [lastPath?_concat]; exact hglobal, .update layer, pglobal,
      layer.isProper (proper payload rfl)⟩
  | setPath path =>
    have hstore : (k.after cwd (.setPath path)).store = k.store.withPath path :=
      store_setPath k.store k.files cwd path
    rw [hstore]
    refine ⟨?_, ?_, pglobal.insert (Json.isProper_str path), pclient.erase⟩
    · rw [withPath, hglobal, lastPath?_concat]
      cases lastPath? calls with
      | none => rfl
      | some last => exact Fields.insert_insert
    · refine hclient.quiet rfl fun key => ?_
      rw [withPath, Fields.get?_erase pclient.ascending]
      simp [Call.path?]

/-- **What the layers are after any calls.** -/
theorem layers_run (file? : Option Path) (t : Files) (cwd : Place)
    (hfirst : Json.IsProper (.obj first))
    (hcalls : ∀ payload, .updateClient payload ∈ calls → payload.IsProper) :
    Holds first calls (run cwd (holding file? first t) calls).store := by
  induction calls using List.reverseRecOn with
  | nil =>
    refine ⟨rfl, ⟨fun _ _ => rfl, ?_⟩, hfirst, Json.isProper_nil⟩
    intro before payload after sent heq
    simp at heq
  | append_singleton calls call ih =>
    rw [run_concat]
    refine (ih fun payload h => hcalls payload (List.mem_append_left _ h)).after ?_
    rintro payload rfl
    exact hcalls payload (by simp)

theorem get?_withLast {last? : Option String} :
    (withLast first last?).get? key =
      if key = pathKey ∧ last?.isSome then last?.map .str else first.get? key := by
  cases last? with
  | none => simp [withLast]
  | some path => simp [withLast, Fields.get?_insert]

/-- The settings of a store are the values in force, or the defaults. -/
theorem Holds.current {s : SettingsStore} (h : Holds first calls s) :
    (∀ x, Gives (valueInForce? (withLast first (lastPath? calls)) s.clientLayer) x →
        s.current = x) ∧
      ((∀ x, ¬ Gives (valueInForce? (withLast first (lastPath? calls)) s.clientLayer) x) →
        s.current = Settings.default) := by
  rw [← h.globalLayer_eq]
  exact effective_of_layers h.proper_global h.proper_client

/-- Stores have the same settings if the same is in force for the known keys. -/
theorem Holds.current_eq {first' : Fields} {calls' : List Call} {s s' : SettingsStore}
    (h : Holds first calls s) (h' : Holds first' calls' s')
    (same : ∀ key ∈ knownKeys,
      valueInForce? (withLast first' (lastPath? calls')) s'.clientLayer key =
        valueInForce? (withLast first (lastPath? calls)) s.clientLayer key) :
    s'.current = s.current := by
  by_cases typed : ∃ x, Gives (valueInForce? (withLast first (lastPath? calls)) s.clientLayer) x
  · obtain ⟨x, gives⟩ := typed
    rw [h.current.1 x gives, h'.current.1 x ((Gives.congr same).mpr gives)]
  · rw [not_exists] at typed
    rw [h.current.2 typed, h'.current.2 fun x gives => typed x ((Gives.congr same).mp gives)]

/-- **The settings after any calls.** Let a store have any global layer at first, and let there be
any calls. Then its settings are the values in force, or the defaults if these have not all the
types that are expected. In force for a key is what the client layer sets, or else the global layer,
or else the default. The client layer is what the calls say; the global layer is the one at first,
with the executable that was set last.

So another store has the same settings if the same executable was set last there, the client layers
that the calls say agree on the known keys, and so do the global layers at first. -/
theorem effective_after_calls (file? : Option Path) (t : Files) (cwd : Place) (first : Fields)
    (calls : List Call) (hfirst : Json.IsProper (.obj first))
    (hcalls : ∀ payload, .updateClient payload ∈ calls → payload.IsProper) :
    ∃ client, IsClientLayer calls client ∧
      ((∀ s, Gives (valueInForce? (withLast first (lastPath? calls)) client) s →
          (run cwd (holding file? first t) calls).store.current = s) ∧
        ((∀ s, ¬ Gives (valueInForce? (withLast first (lastPath? calls)) client) s) →
          (run cwd (holding file? first t) calls).store.current = Settings.default)) ∧
      ∀ (first' : Fields) (calls' : List Call) (client' : Fields), Json.IsProper (.obj first') →
        (∀ payload, .updateClient payload ∈ calls' → payload.IsProper) →
        IsClientLayer calls' client' → lastPath? calls' = lastPath? calls →
        (∀ key ∈ knownKeys, first'.get? key = first.get? key ∧ client'.get? key = client.get? key) →
          (run cwd (holding file? first' t) calls').store.current =
            (run cwd (holding file? first t) calls).store.current := by
  have holds := layers_run file? t cwd hfirst hcalls
  refine ⟨_, holds.isClientLayer, holds.current, ?_⟩
  intro first' calls' client' hfirst' hcalls' hclient' hlast hkeys
  have holds' := layers_run file? t cwd hfirst' hcalls'
  refine holds.current_eq holds' fun key hkey => valueInForce?_congr ?_ ?_
  · rw [hlast, get?_withLast, get?_withLast, (hkeys key hkey).1]
  · rw [hclient'.get?_eq holds'.isClientLayer, (hkeys key hkey).2]

/-- The client sends a limit that is no number, then an executable is set, and then the client sends
another limit beside a blank executable. -/
def mixedCalls : List Call :=
  [.updateClient (.obj [("timeoutMs", .str "soon")]), .setPath "/b", .current,
    .updateClient (.obj [("protolint", .obj [("path", .str " "), ("timeoutMs", .int 5)])])]

/-- The payload that was sent first does not matter, and the blank executable hides nothing. -/
theorem mixed_effective :
    (run [] (holding none [("lintOnChange", .bool true), ("own", .null)] ⟨[]⟩)
      mixedCalls).store.current = ⟨some "/b", true, 5, false⟩ := by
  have htrue : Json.IsProper (.bool true) := Json.IsSingle.isProper trivial trivial
  have hnull : Json.IsProper .null := Json.IsSingle.isProper trivial trivial
  have hfive : Json.IsProper (.int 5) := Json.IsSingle.isProper trivial ⟨by decide, by decide⟩
  have hfirst : Json.IsProper (.obj [("lintOnChange", .bool true), ("own", .null)]) := by
    refine Json.isProper_obj.mpr ⟨?_, by simp [htrue, hnull]⟩
    unfold Fields.Ascending
    decide +kernel
  have hsent : Json.IsProper (.obj [("path", .str " "), ("timeoutMs", .int 5)]) := by
    refine Json.isProper_obj.mpr ⟨?_, by simp [Json.isProper_str, hfive]⟩
    unfold Fields.Ascending
    decide +kernel
  have hcalls : ∀ payload, .updateClient payload ∈ mixedCalls → payload.IsProper := by
    intro payload hmem
    simp only [mixedCalls, List.mem_cons, Call.updateClient.injEq, reduceCtorEq, false_or,
      List.not_mem_nil, or_false] at hmem
    rcases hmem with rfl | rfl
    · exact Json.isProper_obj.mpr ⟨List.pairwise_singleton _ _, by simp [Json.isProper_str]⟩
    · exact Json.isProper_obj.mpr ⟨List.pairwise_singleton _ _, by simp [hsent]⟩
  obtain ⟨client, hclient, ⟨typed, -⟩, -⟩ :=
    effective_after_calls none ⟨[]⟩ [] _ mixedCalls hfirst hcalls
  have layer : IsLayerOf (.obj [("protolint", .obj [("path", .str " "), ("timeoutMs", .int 5)])])
      [("path", .str " "), ("timeoutMs", .int 5)] := .named rfl
  have hget (key : String) : client.get? key =
      Fields.get? key [("path", .str " "), ("timeoutMs", .int 5)] := by
    rw [hclient.sent (mixedCalls.take 3) _ [] _ rfl (by simp) layer,
      if_neg fun h => Bool.false_ne_true h.2]
  refine typed _ ⟨?_, ?_, ?_, by decide, ?_⟩
  · rw [valueInForce?_congr rfl (hget _)]
    rfl
  · rw [valueInForce?_congr rfl (hget _)]
    rfl
  · rw [valueInForce?_congr rfl (hget _)]
    rfl
  · rw [valueInForce?_congr rfl (hget _)]
    rfl

end SettingsStore

end LintBridge
