import Jury.Fault
import Jury.Text.Blank
import Jury.Text.Utf8

/-!
# Reading tokens

Tokens of a byte stream that arrives in deliveries. A token is a maximal run of bytes other than
separators, however the deliveries cut it; reading takes one separator after it. Asking for the
end of the stream takes deliveries of separators only.
-/

namespace Jury.Checker

open Jury.Text (isSeparatorByte)

/-- What one attempt to read a stream brings. A failure stays. -/
inductive Delivery where
  /-- Bytes, at least one. -/
  | bytes (first : UInt8) (rest : List UInt8)
  | interrupted
  | failed (cause : IoFault)
  deriving DecidableEq, Repr

/-- The deliveries of a byte string that is read `gulp + 1` bytes at a time. -/
def Delivery.ofBytes (gulp : Nat) : List UInt8 → List Delivery
  | [] => []
  | b :: rest => Delivery.bytes b (rest.take gulp) :: Delivery.ofBytes gulp (rest.drop gulp)
termination_by bytes => bytes.length
decreasing_by simp only [List.length_drop, List.length_cons]; omega

def Delivery.size : Delivery → Nat
  | bytes _ rest => rest.length + 1
  | _ => 0

/-- The number of bytes that a row of deliveries brings. -/
def Delivery.sizes : List Delivery → Nat
  | [] => 0
  | delivery :: source => delivery.size + sizes source

/-- A stream being read: the bytes at hand, and what is still to be delivered. -/
structure TokenReader where
  held : List UInt8 := []
  source : List Delivery
  deriving DecidableEq, Repr

/-- The bytes of a chunk as far as the first token in it, of which `token` was read already, last
byte first: what is read of the token, whether a separator ended it, and the rest. -/
def splitToken (token : List UInt8) : List UInt8 → List UInt8 × Bool × List UInt8
  | [] => (token, false, [])
  | b :: bytes =>
    if isSeparatorByte b then
      if token.isEmpty then splitToken [] bytes else (token, true, bytes)
    else splitToken (b :: token) bytes

/-- The token whose bytes are given last first, if there is one. -/
def finishToken (token : List UInt8) : Option String :=
  if token.isEmpty then none else some (Utf8.decodeLossy token.reverse)

namespace TokenReader

/-- The next token, of which `token` was read already. -/
def nextFrom (token held : List UInt8) (source : List Delivery) :
    Except IoFault (Option String) × TokenReader :=
  match splitToken token held with
  | (token, true, rest) => (.ok (finishToken token), ⟨rest, source⟩)
  | (token, false, _) =>
    match source with
    | [] => (.ok (finishToken token), ⟨[], []⟩)
    | .bytes first rest :: source => nextFrom token (first :: rest) source
    | .interrupted :: source => nextFrom token [] source
    | .failed cause :: source => (.error cause, ⟨[], .failed cause :: source⟩)

/-- The next token, or `none` once only separators are left. -/
def next (r : TokenReader) : Except IoFault (Option String) × TokenReader :=
  nextFrom [] r.held r.source

/-- Whether only separators are at hand and to come. -/
def isAtEndFrom (held : List UInt8) (source : List Delivery) :
    Except IoFault Bool × TokenReader :=
  if held.all isSeparatorByte then
    match source with
    | [] => (.ok true, ⟨[], []⟩)
    | .bytes first rest :: source => isAtEndFrom (first :: rest) source
    | .interrupted :: source => isAtEndFrom [] source
    | .failed cause :: source => (.error cause, ⟨[], .failed cause :: source⟩)
  else (.ok false, ⟨held, source⟩)

/-- Whether the rest of the stream is separators only. -/
def isAtEnd (r : TokenReader) : Except IoFault Bool × TokenReader :=
  isAtEndFrom r.held r.source

/-- The number of bytes that are at hand or to come. -/
def size (r : TokenReader) : Nat :=
  r.held.length + Delivery.sizes r.source

end TokenReader

/-! ### Reading makes a stream shorter -/

private theorem length_splitToken {token bytes t rest : List UInt8} {ended : Bool}
    (h : splitToken token bytes = (t, ended, rest)) :
    t.length + rest.length + ended.toNat ≤ token.length + bytes.length := by
  fun_induction splitToken token bytes <;> simp_all <;> grind

private theorem length_of_finishToken {token : List UInt8} {t : String}
    (h : finishToken token = some t) : 0 < token.length := by
  cases token <;> simp_all [finishToken]

namespace TokenReader

theorem size_nextFrom_le (token held : List UInt8) (source : List Delivery) :
    (nextFrom token held source).2.size ≤
      token.length + held.length + Delivery.sizes source := by
  fun_induction nextFrom token held source with
  | case1 token held source t rest h => have := length_splitToken h; simp [size]; omega
  | case2 => simp [size]
  | case3 token held t _ h first rest source ih =>
    have := length_splitToken h
    simp [Delivery.size, Delivery.sizes] at *
    omega
  | case4 token held t _ h source ih =>
    have := length_splitToken h
    simp [Delivery.size, Delivery.sizes] at *
    omega
  | case5 => simp [size]

theorem size_nextFrom_lt {token held : List UInt8} {source : List Delivery} {t : String}
    (h : (nextFrom token held source).1 = .ok (some t)) :
    (nextFrom token held source).2.size <
      token.length + held.length + Delivery.sizes source := by
  fun_induction nextFrom token held source with
  | case1 token held source u rest hs =>
    have := length_splitToken hs
    simp only [Except.ok.injEq] at h
    have := length_of_finishToken h
    simp [size] at *
    omega
  | case2 token held u rest hs =>
    have := length_splitToken hs
    simp only [Except.ok.injEq] at h
    have := length_of_finishToken h
    simp [size] at *
    omega
  | case3 token held u _ hs first rest source ih =>
    have := length_splitToken hs
    have := ih h
    simp [Delivery.size, Delivery.sizes] at *
    omega
  | case4 token held u _ hs source ih =>
    have := length_splitToken hs
    have := ih h
    simp [Delivery.size, Delivery.sizes] at *
    omega
  | case5 => simp at h

/-- Reading never makes a stream longer. -/
theorem size_next_le (r : TokenReader) : r.next.2.size ≤ r.size := by
  simpa [next, size] using size_nextFrom_le [] r.held r.source

/-- Reading a token makes a stream shorter. -/
theorem size_next_lt {r : TokenReader} {t : String} (h : r.next.1 = .ok (some t)) :
    r.next.2.size < r.size := by
  simpa [next, size] using size_nextFrom_lt h

end TokenReader

end Jury.Checker
