import Jury.Channel
import Mathlib.Data.Nat.Find
import Mathlib.Tactic.Common

/-!
# Using a channel

On a channel of sound health every text that is written arrives whole, behind what was written
before. What goes wrong on a channel is a matter of how often it was used, and of nothing else.

A message of several texts is written text by text (`writeAll_of_ok`), up to the first write that
goes wrong (`writeAll_of_breakage`). It gets through when all writes and the flush go well
(`deliver_of_delivers`), and otherwise a beginning of it does (`deliver_of_not_delivers`).
-/

namespace Jury

/-- A channel on which nothing goes wrong, now or later. -/
def Health.IsSound (h : Health) : Prop :=
  ∀ op n, h.breakage op n = none

lemma Health.isSound_sound : Health.sound.IsSound :=
  fun _ _ => rfl

/-- Whether the next writes, so many of them, and the flush behind them go well. -/
structure Health.Delivers (h : Health) (count : Nat) : Prop where
  writes_ok : ∀ i < count, h.breakage .write (h.used + i) = none
  flush_ok : h.breakage .flush (h.used + count) = none

lemma Health.IsSound.delivers {h : Health} (hsound : h.IsSound) (count : Nat) :
    h.Delivers count :=
  ⟨fun _ _ => hsound _ _, hsound _ _⟩

/-- The health of a channel after so many more operations. -/
def Health.after (h : Health) (count : Nat) : Health :=
  { h with used := h.used + count }

@[simp]
lemma Health.used_after (h : Health) (count : Nat) : (h.after count).used = h.used + count :=
  rfl

@[simp]
lemma Health.breakage_after (h : Health) (count : Nat) :
    (h.after count).breakage = h.breakage :=
  rfl

@[simp]
lemma Health.after_after (h : Health) (count more : Nat) :
    (h.after count).after more = h.after (count + more) :=
  congrArg (fun used => { h with used }) (Nat.add_assoc _ _ _)

namespace Channel

variable {c : Channel} (text : String)

/-! ### One text -/

lemma write_of_ok (h : c.health.breakage .write c.health.used = none) :
    c.write text = (.ok (), { text := c.text ++ text, health := c.health.after 1 }) := by
  simp only [write, Health.next, h, Health.after]

lemma write_of_breakage {b : Breakage} (h : c.health.breakage .write c.health.used = some b) :
    c.write text = (.error b.cause,
      { text := c.text ++ String.ofList (text.toList.take b.taken),
        health := c.health.after 1 }) := by
  simp only [write, Health.next, h, Health.after]

lemma health_write (c : Channel) : (c.write text).2.health = c.health.after 1 := by
  cases h : c.health.breakage .write c.health.used with
  | none => rw [write_of_ok text h]
  | some b => rw [write_of_breakage text h]

lemma flush_of_ok (h : c.health.breakage .flush c.health.used = none) :
    c.flush = (.ok (), { c with health := c.health.after 1 }) := by
  simp only [flush, Health.next, h, Health.after]

lemma flush_of_breakage {b : Breakage} (h : c.health.breakage .flush c.health.used = some b) :
    c.flush = (.error b.cause, { c with health := c.health.after 1 }) := by
  simp only [flush, Health.next, h, Health.after]

lemma flush_ok (h : c.health.breakage .flush c.health.used = none) : c.flush.1 = .ok () := by
  rw [flush_of_ok h]

lemma flush_error {b : Breakage} (h : c.health.breakage .flush c.health.used = some b) :
    c.flush.1 = .error b.cause := by
  rw [flush_of_breakage h]

lemma write_of_isSound (h : c.health.IsSound) :
    c.write text = (.ok (), { text := c.text ++ text, health := c.health.after 1 }) :=
  write_of_ok text (h .write _)

lemma flush_of_isSound (h : c.health.IsSound) :
    c.flush = (.ok (), { c with health := c.health.after 1 }) :=
  flush_of_ok (h .flush _)

/-! ### Several texts -/

variable {texts : List String}

lemma writeAll_append (c : Channel) (texts more : List String) :
    c.writeAll (texts ++ more) =
      match c.writeAll texts with
      | (.ok (), c) => c.writeAll more
      | (.error cause, c) => (.error cause, c) := by
  induction texts generalizing c with
  | nil => rfl
  | cons text texts ih =>
    simp only [List.cons_append, writeAll]
    rcases c.write text with ⟨_ | _, c⟩
    · rfl
    · exact ih c

/-- While the writes go well the texts arrive whole, one behind another. -/
lemma writeAll_of_ok
    (h : ∀ i < texts.length, c.health.breakage .write (c.health.used + i) = none) :
    c.writeAll texts =
      (.ok (), { text := c.text ++ String.join texts, health := c.health.after texts.length }) := by
  induction texts generalizing c with
  | nil => simp [writeAll, Health.after]
  | cons text texts ih =>
    rw [writeAll, write_of_ok text (h 0 (Nat.zero_lt_succ _))]
    dsimp only
    rw [ih fun i hi => ?_]
    · simp [String.join_cons, String.append_assoc, Nat.add_comm]
    · have hnext := h (i + 1) (Nat.succ_lt_succ hi)
      rwa [Nat.add_comm i 1, ← Nat.add_assoc] at hnext

/-- The first write that goes wrong is the last one: the texts before have arrived, and what got
through of its own. -/
lemma writeAll_of_breakage {i : Nat} (hi : i < texts.length) {b : Breakage}
    (hbefore : ∀ j < i, c.health.breakage .write (c.health.used + j) = none)
    (h : c.health.breakage .write (c.health.used + i) = some b) :
    c.writeAll texts =
      (.error b.cause,
        { text := c.text ++ String.join (texts.take i) ++
            String.ofList (texts[i].toList.take b.taken)
          health := c.health.after (i + 1) }) := by
  have hlength : (texts.take i).length = i := List.length_take_of_le (Nat.le_of_lt hi)
  rw [← hlength] at hbefore
  conv_lhs => rw [← List.take_append_drop i texts, List.drop_eq_getElem_cons hi]
  rw [writeAll_append, writeAll_of_ok hbefore]
  dsimp only
  rw [writeAll, write_of_breakage texts[i] (by simpa [hlength] using h)]
  simp [hlength]

/-- Whole texts and a beginning of the next are a beginning of all of them. -/
lemma isPrefix_torn {i : Nat} (hi : i < texts.length) (taken : Nat) :
    (String.join (texts.take i) ++ String.ofList (texts[i].toList.take taken)).toList <+:
      (String.join texts).toList := by
  have hsplit : String.join texts =
      String.join (texts.take i) ++ (texts[i] ++ String.join (texts.drop (i + 1))) := by
    conv_lhs => rw [← List.take_append_drop i texts, List.drop_eq_getElem_cons hi]
    rw [String.join_append, String.join_cons]
  rw [hsplit, String.toList_append, String.toList_append, String.toList_append,
    String.toList_ofList, List.prefix_append_right_inj]
  exact (List.take_prefix taken _).trans (List.prefix_append _ _)

/-- A message whose writes and whose flush go well gets through. -/
lemma deliver_of_delivers (h : c.health.Delivers texts.length) :
    c.deliver texts =
      (.ok (), { text := c.text ++ String.join texts,
                 health := c.health.after (texts.length + 1) }) := by
  rw [deliver, writeAll_of_ok h.writes_ok]
  dsimp only
  rw [flush_of_ok h.flush_ok, Health.after_after]

/-- Of a message that does not get through, a beginning does. -/
lemma deliver_of_not_delivers (h : ¬c.health.Delivers texts.length) :
    ∃ cause text count, text.toList <+: (String.join texts).toList ∧
      c.deliver texts =
        (.error cause, { text := c.text ++ text, health := c.health.after count }) := by
  by_cases hwrites : ∀ i < texts.length, c.health.breakage .write (c.health.used + i) = none
  · cases hflush : c.health.breakage .flush (c.health.used + texts.length) with
    | none => exact absurd ⟨hwrites, hflush⟩ h
    | some b =>
      refine ⟨b.cause, String.join texts, texts.length + 1, List.prefix_rfl, ?_⟩
      rw [deliver, writeAll_of_ok hwrites]
      dsimp only
      rw [flush_of_breakage hflush, Health.after_after]
  · have hex : ∃ i, i < texts.length ∧ c.health.breakage .write (c.health.used + i) ≠ none := by
      simpa using hwrites
    -- the first write that goes wrong
    obtain ⟨hi, hbroken⟩ := Nat.find_spec hex
    obtain ⟨b, hb⟩ := Option.ne_none_iff_exists'.mp hbroken
    have hbefore : ∀ j < Nat.find hex, c.health.breakage .write (c.health.used + j) = none :=
      fun j hj => not_not.mp fun hne => Nat.find_min hex hj ⟨Nat.lt_trans hj hi, hne⟩
    refine ⟨b.cause, _, Nat.find hex + 1, isPrefix_torn hi b.taken, ?_⟩
    rw [deliver, writeAll_of_breakage hi hbefore hb, String.append_assoc]

end Channel

end Jury
