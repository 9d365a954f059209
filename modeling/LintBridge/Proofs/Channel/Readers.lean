import LintBridge.Proofs.Channel.Serving

/-!
# What each reader receives

The server, the pipe and the reader are one account: what the reader has received, what the pipe
holds and what the server has left to write are together what was there when the reader came and
one text for each time that the server has opened the pipe since (`Exchange.received_run`). So the
reader has received exactly the text when it meets the end of the file if the server had not opened
the pipe when the reader came, and opened it once while the reader was there. A reader that is not
done when the time to leave is over makes the server open the pipe again, and receives the text once
more. What an early reader leaves in the pipe is gone as soon as the server has noticed that it
left; a reader that comes before receives it.

## Main definitions

* `Exchange.pending` — what the pipe holds and what the server has left to write.
* `Exchange.openings` — how often the server opens the pipe for the reader.
* `Exchange.MeetsEnd` — a reader meets the end of the file if it reads now.

## Main results

* `Exchange.received_run` — the account of a reader.
* `Exchange.received_at_end` — what readers receive in every order of the steps, and that the
  serving goes on.
-/

namespace LintBridge

namespace Channel

namespace Exchange

variable {text : Bytes} {x y : Exchange} {r : Reader} {step : ExchangeStep}
  {steps during : List ExchangeStep}

/-! ### Steps -/

/-- The exchange after a step, or as it is if the step is not possible. -/
def after (x : Exchange) (step : ExchangeStep) : Exchange := (x.step? step).getD x

theorem run_cons : x.run (step :: steps) = (x.after step).run steps := rfl

/-- What the server has left to write while it has the pipe open. -/
def unwritten (x : Exchange) : Bytes :=
  match x.server with
  | .writing rest => rest
  | _ => []

/-- What the pipe holds and what the server has left to write. -/
def pending (x : Exchange) : Bytes := x.buffer ++ x.unwritten

/-- Whether the server opens the pipe for the reader in this step. -/
def opensAt (x : Exchange) (step : ExchangeStep) : Bool :=
  step = .poll && x.server = .waiting && x.reader.isSome

/-- How often the server opens the pipe for the reader in these steps. -/
def openings (x : Exchange) : List ExchangeStep → Nat
  | [] => 0
  | step :: steps => (if x.opensAt step then 1 else 0) + (x.after step).openings steps

/-- What one step does, if it does anything. -/
inductive Turn (x : Exchange) : ExchangeStep → Exchange → Prop where
  /-- The step is not possible now, or there is no reader to be found. -/
  | idle (step : ExchangeStep) (unopened : x.opensAt step = false) : Turn x step x
  | opens {r : Reader} (waits : x.server = .waiting) (present : x.reader = some r) :
    Turn x .poll { x with
      server := .writing x.text, reader := some { r with isConnected := true } }
  /-- The server writes what the pipe takes. -/
  | writes {rest : Bytes} (count taken : Nat) (busy : x.server = .writing rest)
    (present : x.reader ≠ none) :
    Turn x (.write count) { x with
      server := .writing (rest.drop taken), buffer := x.buffer ++ rest.take taken }
  | closes (count : Nat) (busy : x.server = .writing []) (present : x.reader ≠ none) :
    Turn x (.write count) { x with server := .settling }
  /-- The server finds that the reader has left. What the pipe held is lost. -/
  | breaks {rest : Bytes} (count : Nat) (busy : x.server = .writing rest)
    (vacant : x.reader = none) :
    Turn x (.write count) { x with server := .settling, buffer := [] }
  | settles (settling : x.server = .settling) : Turn x .settle { x with server := .waiting }
  | arrives (vacant : x.reader = none) :
    Turn x .arrive { x with reader := some ⟨[], x.isWriting, false⟩ }
  | reads {r : Reader} (count : Nat) (present : x.reader = some r) (connected : r.isConnected) :
    Turn x (.read count) { x with
      buffer := x.buffer.drop count
      reader := some { r with received := r.received ++ x.buffer.take count } }
  | ends {r : Reader} (count : Nat) (present : x.reader = some r) (connected : r.isConnected) :
    Turn x (.read count) { x with reader := some { r with sawEnd := true } }
  | leaves {r : Reader} (present : x.reader = some r) :
    Turn x .leave { x with
      reader := none
      departed := r :: x.departed
      buffer := if x.isWriting then x.buffer else [] }

theorem Turn.of_step? (h : x.step? step = some y) : Turn x step y := by
  cases step with
  | poll =>
    simp only [step?] at h
    split at h
    · next r waits present =>
      cases h
      exact .opens waits present
    · next vacant =>
      cases h
      exact .idle .poll (by simp [opensAt, vacant])
    · cases h
  | write count =>
    simp only [step?] at h
    split at h
    · next reader busy =>
      cases h
      by_cases vacant : x.reader = none
      · rw [if_pos (Option.isNone_iff_eq_none.mpr vacant)]
        exact .breaks count busy vacant
      · rw [if_neg (mt Option.isNone_iff_eq_none.mp vacant)]
        exact .closes count busy vacant
    · next busy vacant =>
      cases h
      exact .breaks count busy vacant
    · next rest r busy present =>
      cases h
      exact .writes count _ busy (by simp [present])
    · cases h
  | settle =>
    simp only [step?] at h
    split at h
    · next settling =>
      cases h
      exact .settles settling
    · cases h
  | arrive =>
    simp only [step?] at h
    split at h
    · next vacant =>
      cases h
      exact .arrives vacant
    · cases h
  | read count =>
    simp only [step?] at h
    split at h
    · next r present =>
      split at h
      · cases h
      · next connected =>
        have connected : r.isConnected := by simpa using connected
        split at h
        · cases h
          exact .reads count present connected
        · split at h
          · cases h
          · cases h
            exact .ends count present connected
    · cases h
  | leave =>
    simp only [step?] at h
    split at h
    · next r present =>
      cases h
      exact .leaves present
    · cases h

theorem turn_after (x : Exchange) (step : ExchangeStep) : Turn x step (x.after step) := by
  cases h : x.step? step with
  | none =>
    have unopened : x.opensAt step = false := by
      cases step with
      | poll =>
        cases hserver : x.server <;> cases hreader : x.reader <;>
          simp_all [opensAt, step?]
      | _ => rfl
    rw [after, h]
    exact .idle step unopened
  | some y =>
    rw [after, h]
    exact .of_step? h

/-! ### The account of a reader -/

theorem Turn.text_eq (turn : Turn x step y) : y.text = x.text := by
  cases turn <;> rfl

theorem text_run : (x.run steps).text = x.text := by
  induction steps generalizing x with
  | nil => rfl
  | cons step steps ih => rw [run_cons, ih, (turn_after x step).text_eq]

/-- What a step does to a reader that stays: it receives what the pipe loses, and what is pending
grows by the text if the server opens the pipe. -/
theorem Turn.received (turn : Turn x step y) (present : x.reader = some r) (stays : step ≠ .leave) :
    ∃ r', y.reader = some r' ∧ r'.isConnected = (r.isConnected || x.opensAt step) ∧
      r'.received ++ y.pending =
        r.received ++ x.pending ++ if x.opensAt step then x.text else [] := by
  cases turn with
  | idle step unopened => exact ⟨r, present, by simp [unopened]⟩
  | opens waits present' =>
    obtain rfl := Option.some.inj (present.symm.trans present')
    refine ⟨_, rfl, by simp [opensAt, waits, present], ?_⟩
    simp [opensAt, pending, unwritten, waits, present]
  | writes count taken busy =>
    exact ⟨r, present, by simp [opensAt], by simp [opensAt, pending, unwritten, busy]⟩
  | closes count busy =>
    exact ⟨r, present, by simp [opensAt], by simp [opensAt, pending, unwritten, busy]⟩
  | breaks count busy vacant => rw [vacant] at present; cases present
  | settles settling =>
    exact ⟨r, present, by simp [opensAt], by simp [opensAt, pending, unwritten, settling]⟩
  | arrives vacant => rw [vacant] at present; cases present
  | reads count present' =>
    obtain rfl := Option.some.inj (present.symm.trans present')
    refine ⟨_, rfl, by simp [opensAt], ?_⟩
    calc r.received ++ x.buffer.take count ++ (x.buffer.drop count ++ x.unwritten)
      _ = r.received ++ (x.buffer.take count ++ x.buffer.drop count ++ x.unwritten) := by
        simp only [List.append_assoc]
      _ = r.received ++ x.pending ++ if x.opensAt (.read count) then x.text else [] := by
        simp [opensAt, pending]
  | ends count present' =>
    obtain rfl := Option.some.inj (present.symm.trans present')
    exact ⟨_, rfl, by simp [opensAt], by simp [opensAt, pending, unwritten]⟩
  | leaves => exact absurd rfl stays

/-- A text, so many times. -/
def copies (text : Bytes) (count : Nat) : Bytes := (List.replicate count text).flatten

theorem copies_succ (count : Nat) : copies text (count + 1) = text ++ copies text count := rfl

theorem copies_eq_self_iff {count : Nat} (hpos : 0 < count) :
    copies text count = text ↔ text = [] ∨ count = 1 := by
  obtain ⟨count, rfl⟩ := Nat.exists_eq_add_one.mpr hpos
  rw [copies_succ, List.append_right_eq_self, copies, List.flatten_eq_nil_iff]
  cases count with
  | zero => simp
  | succ count => simp [List.mem_replicate]

/-- **The account of a reader** that stays. It is connected from the first opening on. -/
theorem received_run (present : x.reader = some r) (stays : .leave ∉ steps) :
    ∃ r', (x.run steps).reader = some r' ∧
      (r'.isConnected ↔ r.isConnected ∨ 0 < x.openings steps) ∧
      r'.received ++ (x.run steps).pending =
        r.received ++ x.pending ++ copies x.text (x.openings steps) := by
  induction steps generalizing x r with
  | nil => exact ⟨r, present, by simp [openings], by simp [run, openings, copies]⟩
  | cons step steps ih =>
    rw [List.mem_cons, not_or] at stays
    have turn := turn_after x step
    obtain ⟨r₁, present₁, hconnected₁, hreceived₁⟩ := turn.received present (Ne.symm stays.1)
    obtain ⟨r₂, present₂, hconnected₂, hreceived₂⟩ := ih present₁ stays.2
    rw [run_cons, openings]
    refine ⟨r₂, present₂, ?_, ?_⟩
    · rw [hconnected₂, hconnected₁]
      cases x.opensAt step <;> simp [Nat.add_comm 1]
    · rw [hreceived₂, hreceived₁, turn.text_eq]
      cases x.opensAt step
      · simp
      · simp [Nat.add_comm 1, copies_succ]

/-- A reader meets the end of the file if it reads now. -/
structure MeetsEnd (x : Exchange) (r : Reader) : Prop where
  present : x.reader = some r
  connected : r.isConnected
  empty : x.buffer = []
  closed : x.isWriting = false

theorem MeetsEnd.read (h : x.MeetsEnd r) (count : Nat) :
    x.step? (.read count) = some { x with reader := some { r with sawEnd := true } } := by
  simp [step?, h.present, h.connected, h.empty, h.closed]

theorem unwritten_of_not_isWriting (h : x.isWriting = false) : x.unwritten = [] := by
  unfold isWriting at h
  unfold unwritten
  split <;> simp_all

/-- At the end of the file, nothing is pending. -/
theorem MeetsEnd.pending (h : x.MeetsEnd r) : x.pending = [] := by
  rw [Exchange.pending, h.empty, unwritten_of_not_isWriting h.closed, List.append_nil]

/-- **What a reader has received at the end** is what was pending when it came and the text, once
for each opening. -/
theorem received_of_meetsEnd (vacant : x.reader = none) (stays : .leave ∉ during)
    (ended : (x.run (.arrive :: during)).MeetsEnd r) :
    r.received = x.pending ++ copies x.text (x.openings (.arrive :: during)) ∧
      (x.isWriting ∨ 0 < x.openings (.arrive :: during)) := by
  have harrive : x.after .arrive = { x with reader := some ⟨[], x.isWriting, false⟩ } := by
    simp [after, step?, vacant]
  have hopenings : x.openings (.arrive :: during) = (x.after .arrive).openings during :=
    Nat.zero_add _
  rw [run_cons] at ended
  obtain ⟨r', present, hconnected, hreceived⟩ :=
    received_run (congrArg Exchange.reader harrive) stays
  obtain rfl := Option.some.inj (ended.present.symm.trans present)
  rw [ended.pending, List.append_nil] at hreceived
  have hpending : (x.after .arrive).pending = x.pending := by rw [harrive]; rfl
  have htext : (x.after .arrive).text = x.text := by rw [harrive]
  rw [hopenings]
  exact ⟨by rw [hreceived, hpending, htext, List.nil_append], hconnected.mp ended.connected⟩

/-! ### Between readers -/

/-- Nothing is left in the pipe between two turns of the server, and a reader that came during one
is connected. -/
structure IsTidy (x : Exchange) : Prop where
  vacant : x.reader = none → x.isWriting = false → x.buffer = []
  unconnected : ∀ r, x.reader = some r → r.isConnected = false → x.isWriting = false

theorem Turn.isTidy (turn : Turn x step y) (tidy : x.IsTidy) : y.IsTidy := by
  cases turn with
  | idle => exact tidy
  | opens => exact ⟨nofun, fun r heq hr => by cases heq; cases hr⟩
  | writes count taken busy present =>
    refine ⟨fun vacant => absurd vacant present, fun r heq hr => ?_⟩
    have hclosed := tidy.unconnected r heq hr
    rw [isWriting, busy] at hclosed
    cases hclosed
  | closes count busy present => exact ⟨fun vacant => absurd vacant present, fun _ _ _ => rfl⟩
  | breaks => exact ⟨fun _ _ => rfl, fun _ _ _ => rfl⟩
  | settles settling =>
    have hclosed : x.isWriting = false := by rw [isWriting, settling]
    exact ⟨fun vacant _ => tidy.vacant vacant hclosed, fun _ _ _ => rfl⟩
  | arrives => exact ⟨nofun, fun r heq hr => by cases heq; exact hr⟩
  | reads count present connected =>
    exact ⟨nofun, fun r heq hr => by cases heq; exact absurd connected (by simpa using hr)⟩
  | ends count present connected =>
    exact ⟨nofun, fun r heq hr => by cases heq; exact absurd connected (by simpa using hr)⟩
  | leaves => exact ⟨fun _ hclosed => if_neg (ne_true_of_eq_false hclosed), nofun⟩

theorem isTidy_run (tidy : x.IsTidy) : (x.run steps).IsTidy := by
  induction steps generalizing x with
  | nil => exact tidy
  | cons step steps ih => exact ih ((turn_after x step).isTidy tidy)

theorem isTidy_start : (start text).IsTidy := ⟨fun _ _ => rfl, nofun⟩

theorem IsTidy.pending (tidy : x.IsTidy) (vacant : x.reader = none) (closed : x.isWriting = false) :
    x.pending = [] := by
  rw [Exchange.pending, tidy.vacant vacant closed, unwritten_of_not_isWriting closed,
    List.append_nil]

/-! ### The serving goes on -/

/-- Without a reader, the server soon looks for one, and what was in the pipe is gone. -/
theorem run_of_vacant (tidy : x.IsTidy) (vacant : x.reader = none) :
    x.run [.write 1, .settle] = idle x.text x.departed := by
  obtain ⟨text, server, buffer, reader, departed⟩ := x
  obtain rfl : reader = none := vacant
  cases server with
  | waiting =>
    obtain rfl : buffer = [] := tidy.vacant rfl rfl
    rfl
  | settling =>
    obtain rfl : buffer = [] := tidy.vacant rfl rfl
    rfl
  | writing rest => cases rest <;> rfl

/-- The reader can come to the end of the file without leaving before. -/
def CanEnd (x : Exchange) : Prop :=
  ∃ steps, .leave ∉ steps ∧ ∃ r, (x.run steps).MeetsEnd r

theorem CanEnd.of_after (step : ExchangeStep) (stays : step ≠ .leave)
    (h : (x.after step).CanEnd) : x.CanEnd := by
  obtain ⟨steps, hsteps, ended⟩ := h
  refine ⟨step :: steps, ?_, ended⟩
  rw [List.mem_cons, not_or]
  exact ⟨Ne.symm stays, hsteps⟩

/-- A reader that is connected reads what the pipe holds, and the server writes what is left. -/
theorem canEnd_of_connected (present : x.reader = some r) (connected : r.isConnected) :
    x.CanEnd := by
  -- Each step either takes a byte from the pipe or puts one into it that was left to write.
  induction hn : x.pending.length + x.unwritten.length using Nat.strongRecOn generalizing x r with
  | ind n ih =>
    obtain ⟨text, server, buffer, reader, departed⟩ := x
    obtain rfl : reader = some r := present
    cases buffer with
    | cons b buffer =>
      have hafter : (Exchange.mk text server (b :: buffer) (some r) departed).after (.read 1) =
          ⟨text, server, buffer, some { r with received := r.received ++ [b] }, departed⟩ := by
        simp [after, step?, connected]
      refine .of_after (.read 1) (by decide) ?_
      rw [hafter]
      refine ih _ ?_ rfl connected rfl
      simp only [← hn, pending, unwritten, List.cons_append, List.length_cons]
      omega
    | nil =>
      cases server with
      | writing rest =>
        cases rest with
        | nil => exact ⟨[.write 0], by simp, r, rfl, connected, rfl, rfl⟩
        | cons b rest =>
          have hafter : (Exchange.mk text (.writing (b :: rest)) [] (some r) departed).after
              (.write 1) = ⟨text, .writing rest, [b], some r, departed⟩ := rfl
          refine .of_after (.write 1) (by decide) ?_
          rw [hafter]
          refine ih _ ?_ rfl connected rfl
          simp only [← hn, pending, unwritten, List.length_append, List.length_cons,
            List.length_nil]
          omega
      | waiting | settling => exact ⟨[], List.not_mem_nil, r, rfl, connected, rfl, rfl⟩

theorem canEnd (tidy : x.IsTidy) (present : x.reader = some r) : x.CanEnd := by
  by_cases connected : r.isConnected
  · exact canEnd_of_connected present connected
  · have hclosed := tidy.unconnected r present (by simpa using connected)
    obtain ⟨text, server, buffer, reader, departed⟩ := x
    obtain rfl : reader = some r := present
    cases server with
    | writing rest => cases hclosed
    | waiting | settling =>
      refine .of_after .settle (by decide) (.of_after .poll (by decide) ?_)
      exact canEnd_of_connected rfl rfl

/-! ### All orders -/

/-- **What readers receive**, whatever came before and in whatever order the server and the reader
take their steps.

1. A reader that comes, stays, and meets the end of the file has received what was pending when it
   came and the text, once for each time that the server has opened the pipe for it. If the server
   did not have the pipe open when it came, nothing was pending and the server has opened it at
   least once, so the reader has received exactly the text if and only if that was the only time,
   or the text is empty.
2. A reader can always come to the end of the file.
3. Whenever there is no reader, however the last one left, the server looks for the next one after
   two steps of its own, and a prompt one then receives exactly the text. -/
theorem received_at_end (text : Bytes) (before : List ExchangeStep) :
    let x := (start text).run before
    (x.reader = none → ∀ during r, .leave ∉ during → (x.run (.arrive :: during)).MeetsEnd r →
      r.received = x.pending ++ copies text (x.openings (.arrive :: during)) ∧
      (x.isWriting = false → x.pending = [] ∧ 0 < x.openings (.arrive :: during) ∧
        (r.received = text ↔ text = [] ∨ x.openings (.arrive :: during) = 1))) ∧
    (∀ r, x.reader = some r → x.CanEnd) ∧
    (x.reader = none → x.run [.write 1, .settle] = idle text x.departed ∧
      (idle text x.departed).serveOne = idle text (⟨text, true, true⟩ :: x.departed)) := by
  intro x
  have tidy : x.IsTidy := isTidy_run isTidy_start
  have htext : x.text = text := text_run
  refine ⟨fun vacant during r stays ended => ?_, fun r present => canEnd tidy present,
    fun vacant => ⟨htext ▸ run_of_vacant tidy vacant, serveOne_idle⟩⟩
  obtain ⟨hreceived, hopened⟩ := received_of_meetsEnd vacant stays ended
  rw [htext] at hreceived
  refine ⟨hreceived, fun closed => ?_⟩
  have hpending := tidy.pending vacant closed
  have hpos := hopened.resolve_left (ne_true_of_eq_false closed)
  rw [hpending, List.nil_append] at hreceived
  rw [hreceived]
  exact ⟨hpending, hpos, copies_eq_self_iff hpos⟩

/-- A reader leaves after the first byte was written. The server notices it, and the next reader,
which takes one byte at a time, receives exactly the text. -/
theorem next_received_at_end :
    let x := (start [1, 2]).run [.arrive, .poll, .write 1, .leave, .write 1, .settle]
    ∃ r, (x.run [.arrive, .poll, .write 2, .read 1, .write 0, .read 1]).MeetsEnd r ∧
      r.received = [1, 2] := by
  intro x
  have ended : (x.run [.arrive, .poll, .write 2, .read 1, .write 0, .read 1]).MeetsEnd
      ⟨[1, 2], true, false⟩ := ⟨rfl, rfl, rfl, rfl⟩
  obtain ⟨hends, -, -⟩ :=
    received_at_end [1, 2] [.arrive, .poll, .write 1, .leave, .write 1, .settle]
  obtain ⟨-, hclosed⟩ := hends rfl [.poll, .write 2, .read 1, .write 0, .read 1] _ (by simp) ended
  obtain ⟨-, -, hexact⟩ := hclosed rfl
  exact ⟨_, ended, hexact.mpr (.inr rfl)⟩

/-- A reader that has the pipe still open when it is offered again receives the text twice. And one
that comes while the server still writes to a reader that has left receives the rest only. -/
theorem received_otherwise :
    (∃ r, ((start [1]).run [.arrive, .poll, .write 1, .write 0, .settle, .poll, .write 1, .write 0,
      .read 2]).MeetsEnd r ∧ r.received = [1, 1]) ∧
    ∃ r, ((start [1, 2]).run [.arrive, .poll, .write 2, .read 1, .leave, .arrive, .write 0,
      .read 2]).MeetsEnd r ∧ r.received = [2] :=
  ⟨⟨⟨[1, 1], true, false⟩, ⟨rfl, rfl, rfl, rfl⟩, rfl⟩,
    ⟨[2], true, false⟩, ⟨rfl, rfl, rfl, rfl⟩, rfl⟩

end Exchange

end Channel

end LintBridge
