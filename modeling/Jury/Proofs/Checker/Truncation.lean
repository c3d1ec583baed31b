import Jury.Proofs.Checker.Rows
import Jury.Proofs.Text.Boundaries
import Jury.Proofs.Text.Decoding

/-!
# Comments that are cut

A comment of at least 4096 bytes is written as its longest beginning of at most 4095 bytes, and the
mark. The place to cut is searched for backwards through the bytes, from the last that there is
room for: at most three steps, none of which leaves the text. Comments without line feeds are the
lines of what is written (`comment_cut`).
-/

namespace Jury.Checker

open Jury.Utf8 (IsLongestFront)

/-! ### One comment -/

lemma truncateComment_of_le {text : String} (h : text.utf8ByteSize ≤ 4095) :
    truncateComment text = text := by
  have hbelow : text.utf8ByteSize < commentLimit := Nat.lt_succ_of_le h
  rw [truncateComment, if_pos hbelow]

/-- What is kept of a long comment: its longest beginning below the limit, which the bytes up to
the place that was searched for are read as. -/
lemma exists_truncateComment_eq {text : String} (h : 4095 < text.utf8ByteSize) :
    ∃ front, IsLongestFront 4095 text front ∧
      front.utf8ByteSize = Utf8.lastBoundary (Utf8.encode text) 4095 ∧
      (Utf8.encode text).take (Utf8.lastBoundary (Utf8.encode text) 4095) = Utf8.encode front ∧
      truncateComment text = front ++ truncationMarker := by
  obtain ⟨front, hfront, hsize, htake⟩ := Utf8.exists_isLongestFront text 4095
  have hlimit : ¬text.utf8ByteSize < commentLimit := Nat.not_lt.mpr h
  refine ⟨front, hfront, hsize, htake, ?_⟩
  rw [truncateComment, if_neg hlimit]
  change Utf8.decodeLossy (List.take (Utf8.lastBoundary _ 4095) _) ++ truncationMarker = _
  rw [htake, Utf8.decodeLossy_encode]

/-- Cutting a comment brings no line feed into it. -/
lemma lf_notMem_truncateComment {text : String} (h : '\n' ∉ text.toList) :
    '\n' ∉ (truncateComment text).toList := by
  rcases Nat.lt_or_ge 4095 text.utf8ByteSize with hlong | hshort
  · obtain ⟨front, hfront, -, -, heq⟩ := exists_truncateComment_eq hlong
    rw [heq, String.toList_append, List.mem_append, not_or]
    exact ⟨fun hmem => h (hfront.isFront.subset hmem), by decide⟩
  · rwa [truncateComment_of_le hshort]

/-! ### A row of comments -/

/-- Lines that end in a line feed each are what a text of them is split into. -/
lemma splitOn_join_lines {lines : List String} (h : ∀ line ∈ lines, '\n' ∉ line.toList) :
    (String.join (lines.map (· ++ "\n"))).toList.splitOn '\n' =
      lines.map String.toList ++ [[]] := by
  induction lines with
  | nil => rfl
  | cons line lines ih =>
    rw [List.forall_mem_cons] at h
    have hcons : (String.join ((line :: lines).map (· ++ "\n"))).toList =
        line.toList ++ '\n' :: (String.join (lines.map (· ++ "\n"))).toList := by
      simp [String.join_cons]
    rw [hcons, List.splitOn_append_cons_self, List.splitOn_eq_singleton h.1, ih h.2]
    rfl

/-! ### What arrives -/

/-- **Comments are cut between characters.** On a channel that works, a comment arrives as one
text and a line feed. The text is the comment itself if that takes at most 4095 bytes, and else its
longest beginning in whole characters that does, which takes at least 4092, and the mark. The search
for the place to cut goes back from byte 4095 over bytes of the comment where no character ends, and
the bytes up to there, with those of the mark, are the UTF-8 of what arrives. Of comments without
line feeds, one after the other, each is one of the lines that arrive, in order. -/
theorem comment_cut {s : Session} (hworks : s.comments.health.IsSound) :
    (∀ text : String,
      (s.comment text).comments.text = s.comments.text ++ truncateComment text ++ "\n" ∧
      (text.utf8ByteSize ≤ 4095 → truncateComment text = text) ∧
      (4095 < text.utf8ByteSize →
        ∃ front, IsLongestFront 4095 text front ∧ 4092 ≤ front.utf8ByteSize ∧
          truncateComment text = front ++ truncationMarker ∧
          let bytes := Utf8.encode text
          let cut := Utf8.lastBoundary bytes 4095
          cut = front.utf8ByteSize ∧ cut ≤ 4095 ∧ 4095 < bytes.length ∧
            (∀ n ≤ 4095, cut < n → Utf8.isBoundary bytes n = false) ∧
            Utf8.decode? (bytes.take cut ++ Utf8.encode truncationMarker) =
              some (truncateComment text))) ∧
    ∀ texts : List String, (∀ text ∈ texts, '\n' ∉ text.toList) →
      ∃ added, (texts.foldl Session.comment s).comments.text = s.comments.text ++ added ∧
        added.toList.splitOn '\n' =
          texts.map (fun text => (truncateComment text).toList) ++ [[]] := by
  refine ⟨fun text => ⟨?_, truncateComment_of_le, fun hlong => ?_⟩, fun texts hlf => ?_⟩
  · have hone := text_foldl_comment [text] hworks
    simpa [String.append_assoc] using hone
  · obtain ⟨front, hfront, hsize, htake, heq⟩ := exists_truncateComment_eq hlong
    obtain ⟨hle, -, hlast⟩ := Utf8.lastBoundary_spec (Utf8.encode text) 4095
    have hnear := Utf8.le_lastBoundary_add_three (Nat.le_of_lt hlong)
    refine ⟨front, hfront, by omega, heq, hsize.symm, hle, ?_, ?_, ?_⟩
    · rwa [Utf8.length_encode]
    · intro n hn hcut
      by_contra hboundary
      have := hlast n hn (eq_true_of_ne_false hboundary)
      omega
    · rw [htake, ← Utf8.encode_append, ← heq, Utf8.decode?_encode]
  · refine ⟨_, text_foldl_comment texts hworks, ?_⟩
    have hlines : ∀ line ∈ texts.map truncateComment, '\n' ∉ line.toList := by
      rw [List.forall_mem_map]
      exact fun text htext => lf_notMem_truncateComment (hlf text htext)
    simpa [List.map_map, Function.comp_def] using splitOn_join_lines hlines

/-- Of 4096 characters of two bytes each, 2047 are kept. -/
theorem comment_cut_accents :
    let s := Session.ofBytes [] [] []
    let text := String.ofList (List.replicate 4096 'é')
    let kept := String.ofList (List.replicate 2047 'é') ++ truncationMarker
    s.comments.health.IsSound ∧ 4095 < text.utf8ByteSize ∧ '\n' ∉ text.toList ∧
      (s.comment text).comments.text = kept ++ "\n" ∧
      ∃ added, (["first", text].foldl Session.comment s).comments.text = added ∧
        added.toList.splitOn '\n' = ["first".toList, kept.toList, []] := by
  intro s text kept
  have hworks : s.comments.health.IsSound := Health.isSound_sound
  have hbytes : ∀ n, (String.ofList (List.replicate n 'é')).utf8ByteSize = n * 2 := by
    intro n
    rw [← Utf8.length_encode, Utf8.encode, String.toList_ofList, List.flatMap_replicate]
    simp [show 'é'.utf8Size = 2 by rfl]
  have hlong : 4095 < text.utf8ByteSize := by
    rw [hbytes]
    decide
  have hlf : '\n' ∉ text.toList := by
    rw [String.toList_ofList]
    exact fun hmem => absurd (List.eq_of_mem_replicate hmem) (by decide)
  obtain ⟨hone, hrow⟩ := comment_cut hworks
  obtain ⟨harrives, -, hcut⟩ := hone text
  obtain ⟨front, ⟨hisFront, hfits, hlongest⟩, -, heq, -⟩ := hcut hlong
  -- a beginning of the text is a row of its one character, of which 2047 fit and 2048 do not
  have hkept : truncateComment text = kept := by
    rw [String.toList_ofList, List.prefix_replicate_iff] at hisFront
    have hrowOf : front = String.ofList (List.replicate front.toList.length 'é') := by
      rw [← hisFront.2, String.ofList_toList]
    have hleast := hlongest (String.ofList (List.replicate 2047 'é')) ?_ (by rw [hbytes]; decide)
    · have hlength := hleast.length_le
      rw [String.toList_ofList, List.length_replicate] at hlength
      rw [hrowOf, hbytes] at hfits
      have hcount : front.toList.length = 2047 := by omega
      rw [heq, hrowOf, hcount]
    · rw [String.toList_ofList, String.toList_ofList, List.prefix_replicate_iff,
        List.length_replicate]
      exact ⟨by decide, rfl⟩
  clear_value text kept
  refine ⟨hworks, hlong, hlf, ?_, ?_⟩
  · rw [harrives, hkept]
    exact congrArg (· ++ "\n") String.empty_append
  · obtain ⟨added, harrived, hlines⟩ := hrow ["first", text]
      (List.forall_mem_cons.mpr ⟨by decide, List.forall_mem_singleton.mpr hlf⟩)
    refine ⟨added, harrived.trans String.empty_append, ?_⟩
    rw [hlines, List.map_cons, List.map_singleton, hkept, truncateComment_of_le (by decide)]
    rfl

end Jury.Checker
