import Mathlib.Data.List.Infix
import Jury.Proofs.Text.Utf8

/-!
# Where a text can be cut

The bytes of a text can be cut behind its beginnings, and nowhere else (`isBoundary_encode_iff`).
Searching for such a place byte by byte takes at most three steps (`le_lastBoundary_add_three`) and
finds the longest beginning that there is room for (`exists_isLongestFront`).
-/

namespace Jury.Utf8

/-! ### The bytes of a character -/

/-- The bytes of a character are one that begins it and others that carry it on. -/
lemma exists_encodeChar_eq (c : Char) :
    ∃ b tails, String.utf8EncodeChar c = b :: tails ∧ isLeading b = true ∧
      ∀ t ∈ tails, isLeading t = false := by
  have hone : ∀ m < 0x80, isLeading (UInt8.ofNat m) = true := by decide
  have htwo : ∀ m < 0x20, isLeading (UInt8.ofNat (m + 0xC0)) = true := by decide
  have hthree : ∀ m < 0x10, isLeading (UInt8.ofNat (m + 0xE0)) = true := by decide
  have hfour : ∀ m < 8, isLeading (UInt8.ofNat (m + 0xF0)) = true := by decide
  have htail : ∀ m < 0x40, isLeading (UInt8.ofNat (m + 0x80)) = false := by decide
  rw [String.utf8EncodeChar]
  generalize c.val.toNat = v
  split_ifs with h1 h2 h3
  · exact ⟨_, _, rfl, hone v (by omega), List.forall_mem_nil _⟩
  · refine ⟨_, _, rfl, htwo _ (Nat.mod_lt _ (by decide)), ?_⟩
    rw [List.forall_mem_singleton]
    exact htail _ (Nat.mod_lt _ (by decide))
  · refine ⟨_, _, rfl, hthree _ (Nat.mod_lt _ (by decide)), ?_⟩
    rw [List.forall_mem_cons, List.forall_mem_singleton]
    exact ⟨htail _ (Nat.mod_lt _ (by decide)), htail _ (Nat.mod_lt _ (by decide))⟩
  · refine ⟨_, _, rfl, hfour _ (Nat.mod_lt _ (by decide)), ?_⟩
    rw [List.forall_mem_cons, List.forall_mem_cons, List.forall_mem_singleton]
    exact ⟨htail _ (Nat.mod_lt _ (by decide)), htail _ (Nat.mod_lt _ (by decide)),
      htail _ (Nat.mod_lt _ (by decide))⟩

lemma length_encode (text : String) : (encode text).length = text.utf8ByteSize := by
  rw [← String.size_toByteArray, ← String.utf8Encode_toList, List.utf8Encode,
    List.size_toByteArray, encode]

/-! ### Boundaries -/

lemma isBoundary_succ (bytes : List UInt8) (n : Nat) :
    isBoundary bytes (n + 1) = match bytes[n + 1]? with
      | some b => isLeading b
      | none => n + 1 == bytes.length :=
  rfl

/-- The bytes of a text can be cut behind those of every beginning. -/
lemma isBoundary_append (front rest : List Char) :
    isBoundary ((front ++ rest).flatMap String.utf8EncodeChar)
      (front.flatMap String.utf8EncodeChar).length = true := by
  rw [List.flatMap_append, isBoundary, List.getElem?_append_right le_rfl, Nat.sub_self]
  cases rest with
  | nil => simp
  | cons c rest =>
    obtain ⟨b, tails, hc, hb, -⟩ := exists_encodeChar_eq c
    simp [hc, hb]

/-- Inside a character its bytes cannot be cut. -/
lemma isBoundary_inside (c : Char) (bytes : List UInt8) {n : Nat}
    (hn : n + 1 < (String.utf8EncodeChar c).length) :
    isBoundary (String.utf8EncodeChar c ++ bytes) (n + 1) = false := by
  obtain ⟨b, tails, hc, -, htails⟩ := exists_encodeChar_eq c
  rw [hc] at hn ⊢
  have hlt : n < tails.length := Nat.lt_of_succ_lt_succ hn
  rw [isBoundary_succ, List.getElem?_append_left hn, List.getElem?_cons_succ,
    List.getElem?_eq_getElem hlt]
  exact htails _ (List.getElem_mem hlt)

/-- Behind other bytes there are no more places to cut. -/
lemma isBoundary_of_append {front bytes : List UInt8} {n : Nat}
    (h : isBoundary (front ++ bytes) (front.length + n) = true) : isBoundary bytes n = true := by
  cases n with
  | zero => rfl
  | succ n =>
    rw [← Nat.add_assoc, isBoundary_succ, List.getElem?_append_right (by omega)] at h
    have hindex : front.length + n + 1 - front.length = n + 1 := by omega
    rw [hindex] at h
    rw [isBoundary_succ]
    cases hbyte : bytes[n + 1]? with
    | some b => simpa [hbyte] using h
    | none => simpa [hbyte, Nat.add_assoc] using h

/-- Where the bytes of characters can be cut, some of the characters end. -/
lemma exists_front_of_isBoundary {cs : List Char} {n : Nat}
    (h : isBoundary (cs.flatMap String.utf8EncodeChar) n = true) :
    ∃ front rest, front ++ rest = cs ∧ (front.flatMap String.utf8EncodeChar).length = n := by
  induction cs generalizing n with
  | nil =>
    cases n with
    | zero => exact ⟨[], [], rfl, rfl⟩
    | succ n => simp [isBoundary_succ] at h
  | cons c cs ih =>
    rw [List.flatMap_cons] at h
    rcases Nat.lt_or_ge n (String.utf8EncodeChar c).length with hlt | hge
    · cases n with
      | zero => exact ⟨[], c :: cs, rfl, rfl⟩
      | succ n =>
        rw [isBoundary_inside c _ hlt] at h
        cases h
    · obtain ⟨m, rfl⟩ := Nat.exists_eq_add_of_le hge
      obtain ⟨front, rest, rfl, hfront⟩ := ih (isBoundary_of_append h)
      refine ⟨c :: front, rest, rfl, ?_⟩
      rw [List.flatMap_cons, List.length_append, hfront]

/-- The bytes of a text can be cut just behind its beginnings. -/
lemma isBoundary_encode_iff {text : String} {n : Nat} :
    isBoundary (encode text) n = true ↔
      ∃ front rest : String, front ++ rest = text ∧ front.utf8ByteSize = n := by
  constructor
  · intro h
    obtain ⟨front, rest, hcs, hfront⟩ := exists_front_of_isBoundary h
    refine ⟨String.ofList front, String.ofList rest, ?_, ?_⟩
    · rw [← String.ofList_append, hcs, String.ofList_toList]
    · rw [← length_encode, encode, String.toList_ofList, hfront]
  · rintro ⟨front, rest, rfl, rfl⟩
    rw [← length_encode, encode, encode, String.toList_append]
    exact isBoundary_append front.toList rest.toList

lemma take_encode_append (front rest : String) :
    (encode (front ++ rest)).take front.utf8ByteSize = encode front := by
  rw [encode_append, ← length_encode, List.take_left]

/-! ### The search -/

/-- The search stops at the first boundary that it meets. -/
lemma lastBoundary_spec (bytes : List UInt8) (n : Nat) :
    lastBoundary bytes n ≤ n ∧ isBoundary bytes (lastBoundary bytes n) = true ∧
      ∀ m ≤ n, isBoundary bytes m = true → m ≤ lastBoundary bytes n := by
  fun_induction lastBoundary bytes n with
  | case1 n h => exact ⟨le_rfl, h, fun m hm _ => hm⟩
  | case2 n h ih =>
    obtain ⟨hle, hboundary, hlast⟩ := ih
    refine ⟨by omega, hboundary, fun m hm hcut => hlast m ?_ hcut⟩
    have hne : m ≠ n := by
      rintro rfl
      exact h hcut
    omega

/-- The next character ends at the next boundary. -/
lemma isBoundary_encode_next (front : String) (c : Char) (cs : List Char) :
    isBoundary (encode (front ++ String.ofList (c :: cs))) (front.utf8ByteSize + c.utf8Size) =
      true := by
  refine isBoundary_encode_iff.mpr ⟨front ++ String.ofList [c], String.ofList cs, ?_, ?_⟩
  · rw [String.append_assoc, ← String.ofList_append, List.singleton_append]
  · rw [String.utf8ByteSize_append]
    simp

/-- No character is longer than four bytes, so a place inside a text is at most three bytes behind
a boundary. -/
lemma le_lastBoundary_add_three {text : String} {room : Nat} (h : room ≤ text.utf8ByteSize) :
    room ≤ lastBoundary (encode text) room + 3 := by
  obtain ⟨-, hboundary, hlast⟩ := lastBoundary_spec (encode text) room
  obtain ⟨front, rest, rfl, hfront⟩ := isBoundary_encode_iff.mp hboundary
  rw [← hfront] at hlast ⊢
  obtain ⟨cs, rfl⟩ : ∃ cs, rest = String.ofList cs := ⟨rest.toList, String.ofList_toList.symm⟩
  cases cs with
  | nil =>
    rw [String.ofList_nil, String.append_empty] at h
    omega
  | cons c cs =>
    by_contra hfar
    -- the next character would still fit
    have hpos := c.utf8Size_pos
    have hfour := c.utf8Size_le_four
    have hnext := hlast _ (by omega) (isBoundary_encode_next front c cs)
    omega

/-! ### Beginnings -/

/-- Of two beginnings of a text, one of no more bytes begins the other. -/
lemma isPrefix_of_utf8ByteSize_le {s t text : String} (hs : s.toList <+: text.toList)
    (ht : t.toList <+: text.toList) (hle : s.utf8ByteSize ≤ t.utf8ByteSize) :
    s.toList <+: t.toList := by
  rcases List.prefix_or_prefix_of_prefix hs ht with hprefix | ⟨more, hmore⟩
  · exact hprefix
  · have hsame : t ++ String.ofList more = s := by
      rw [← String.toList_inj, String.toList_append, String.toList_ofList, hmore]
    have hnone : (String.ofList more).utf8ByteSize = 0 := by
      rw [← hsame, String.utf8ByteSize_append] at hle
      omega
    rw [String.utf8ByteSize_eq_zero_iff] at hnone
    rw [← hsame, hnone, String.append_empty]

/-- Whether `front` is the longest beginning of a text, in whole characters, that takes at most
`room` bytes. -/
structure IsLongestFront (room : Nat) (text front : String) : Prop where
  isFront : front.toList <+: text.toList
  fits : front.utf8ByteSize ≤ room
  longest : ∀ front' : String, front'.toList <+: text.toList → front'.utf8ByteSize ≤ room →
    front'.toList <+: front.toList

/-- Of the bytes of a text, the search keeps those of the longest beginning that there is room
for. -/
lemma exists_isLongestFront (text : String) (room : Nat) :
    ∃ front, IsLongestFront room text front ∧
      front.utf8ByteSize = lastBoundary (encode text) room ∧
      (encode text).take (lastBoundary (encode text) room) = encode front := by
  obtain ⟨hle, hboundary, hlast⟩ := lastBoundary_spec (encode text) room
  obtain ⟨front, rest, rfl, hfront⟩ := isBoundary_encode_iff.mp hboundary
  rw [← hfront] at hle hlast ⊢
  have hisFront : front.toList <+: (front ++ rest).toList :=
    ⟨rest.toList, String.toList_append.symm⟩
  refine ⟨front, ⟨hisFront, hle, fun front' hfront' hfits => ?_⟩, rfl,
    take_encode_append front rest⟩
  obtain ⟨rest', hrest'⟩ := hfront'
  have hcut : isBoundary (encode (front ++ rest)) front'.utf8ByteSize = true := by
    refine isBoundary_encode_iff.mpr ⟨front', String.ofList rest', ?_, rfl⟩
    rw [← String.toList_inj, String.toList_append, String.toList_ofList, hrest']
  exact isPrefix_of_utf8ByteSize_le ⟨rest', hrest'⟩ hisFront (hlast _ hfits hcut)

end Jury.Utf8
