import Jury.Proofs.Checker.Lockstep
import Jury.Proofs.Text.Words

/-!
# Reading a stream to its end

Reading a stream token by token gives the fields of its text: it makes no difference whether the
bytes are split and the tokens read one by one, or the bytes are read as a whole and the text is
split (`drain_eq_fields`). This holds of all bytes, UTF-8 or not.
-/

namespace Jury.Checker

namespace TokenReader

/-- The tokens that asking brings until there is none, unless reading fails. -/
def drain (r : TokenReader) : Except IoFault (List String) :=
  match _h : r.next with
  | (.error cause, _) => .error cause
  | (.ok none, _) => .ok []
  | (.ok (some token), r') => r'.drain.map (token :: ·)
termination_by r.size
decreasing_by
  have hlt : r.next.2.size < r.size := size_next_lt (by rw [_h])
  rwa [_h] at hlt

/-- Asking for a token takes the first one. -/
lemma next_tokens {r : TokenReader} (hsound : r.IsSound) :
    r.next.1 = .ok r.tokens.head? ∧ r.next.2.tokens = r.tokens.tail ∧ r.next.2.IsSound := by
  obtain ⟨hanswer, hwords, hsound'⟩ := r.next_eq hsound
  refine ⟨?_, ?_, hsound'⟩
  · rw [tokens, List.head?_map, hanswer]
  · rw [tokens, tokens, hwords, List.map_tail]

/-- Asking to the end brings all tokens of a stream that can be read. -/
lemma drain_eq {r : TokenReader} (hsound : r.IsSound) : r.drain = .ok r.tokens := by
  fun_induction drain r with
  | case1 r cause r' hnext =>
    have hanswer := (next_tokens hsound).1
    rw [hnext] at hanswer
    cases hanswer
  | case2 r r' hnext =>
    have hanswer := (next_tokens hsound).1
    rw [hnext] at hanswer
    rw [List.head?_eq_none_iff.mp (Except.ok.inj hanswer).symm]
  | case3 r token r' hnext ih =>
    obtain ⟨hanswer, htokens, hsound'⟩ := next_tokens hsound
    rw [hnext] at hanswer htokens hsound'
    obtain ⟨rest, hrest⟩ := List.head?_eq_some_iff.mp (Except.ok.inj hanswer).symm
    rw [ih hsound', htokens, hrest]
    rfl

end TokenReader

/-- **Splitting commutes with reading.** Of any byte string, UTF-8 or not, however it is cut into
deliveries and wherever reading it is interrupted, the tokens that asking brings until there is none
are the fields of the text that the whole byte string is read as. -/
theorem drain_eq_fields (input : List UInt8) (source : List Delivery)
    (hcut : source.flatMap Delivery.content = input) (hsound : ∀ cause, .failed cause ∉ source) :
    ({ source } : TokenReader).drain = .ok (Text.fields (Utf8.decodeLossy input)) := by
  have hremaining : ({ source } : TokenReader).remaining = input := hcut
  rw [TokenReader.drain_eq (r := { source }) hsound, TokenReader.tokens, TokenReader.words,
    hremaining, Utf8.fields_decodeLossy]

/-- A character of four bytes that a separator breaks off after three, and one that lacks its first
byte. -/
theorem drain_eq_fields_broken :
    let input : List UInt8 := [0xF0, 0x9F, 0x98, 0x20, 0x80, 0x61, 0xC3]
    let source : List Delivery := [.bytes 0xF0 [0x9F], .interrupted, .bytes 0x98 [0x20, 0x80],
      .bytes 0x61 [0xC3]]
    source.flatMap Delivery.content = input ∧ (∀ cause, .failed cause ∉ source) ∧
      ({ source } : TokenReader).drain = .ok ["\uFFFD", "\uFFFDa\uFFFD"] := by
  intro input source
  have hcut : source.flatMap Delivery.content = input := rfl
  have hsound : ∀ cause, .failed cause ∉ source := by
    intro cause hmem
    simp [source] at hmem
  refine ⟨hcut, hsound, ?_⟩
  rw [drain_eq_fields input source hcut hsound]
  decide +kernel

end Jury.Checker
