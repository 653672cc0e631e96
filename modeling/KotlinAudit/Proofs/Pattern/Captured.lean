import KotlinAudit.Proofs.Pattern.Replacing

/-! What groups capture. Along a way the text around the place stays the same, so what a group has captured
can be read from any later place, and it is a text that the body of the group matches. -/
namespace KotlinAudit

namespace Cursor

/-- The text around a place does not depend on how far it is passed. -/
theorem Passes.textOf {cursor next : Cursor} {passed : List Char} (h : cursor.Passes passed next)
    (stretch : Stretch) : next.textOf stretch = cursor.textOf stretch := by
  have hwhole : next.before.reverse ++ next.after = cursor.before.reverse ++ cursor.after := h.whole_eq
  rw [Cursor.textOf, Cursor.textOf, hwhole]

/-- The way from one place to another runs over some text, and what groups capture on it has a property. -/
structure Reads (holds : Nat → List Char → Prop) (cursor next : Cursor) : Prop where
  reaches : cursor.Reaches next
  captured : ∃ more, next.groups = more ++ cursor.groups ∧
    (cursor.Placed → ∀ capture ∈ more, holds capture.1 (next.textOf capture.2))

namespace Reads

variable {holds other : Nat → List Char → Prop} {cursor middle next : Cursor}

theorem of_passes {passed : List Char} (h : cursor.Passes passed next)
    (hgroups : next.groups = cursor.groups) : cursor.Reads holds next :=
  ⟨⟨passed, h⟩, [], hgroups, fun _ => List.forall_mem_nil _⟩

theorem refl (cursor : Cursor) : cursor.Reads holds cursor := of_passes (.refl cursor) rfl

theorem trans (h : cursor.Reads holds middle) (hnext : middle.Reads holds next) :
    cursor.Reads holds next := by
  obtain ⟨⟨passed, hpasses⟩, more, hgroups, hmore⟩ := h
  obtain ⟨⟨passed', hpasses'⟩, more', hgroups', hmore'⟩ := hnext
  refine ⟨⟨passed ++ passed', hpasses.trans hpasses'⟩, more' ++ more, ?_, fun hplaced => ?_⟩
  · rw [hgroups', hgroups, List.append_assoc]
  · refine List.forall_mem_append.2 ⟨hmore' (hpasses.placed hplaced), fun capture hcapture => ?_⟩
    rw [hpasses'.textOf]
    exact hmore hplaced capture hcapture

theorem mono (h : cursor.Reads holds next) (hholds : ∀ group text, holds group text → other group text) :
    cursor.Reads other next := by
  obtain ⟨hpasses, more, hgroups, hmore⟩ := h
  exact ⟨hpasses, more, hgroups, fun hplaced capture hcapture =>
    hholds _ _ (hmore hplaced capture hcapture)⟩

/-- What a group holds at the end of a way that starts with nothing captured. -/
theorem holds_of_group? (h : cursor.Reads holds next) (hplaced : cursor.Placed)
    (hfresh : cursor.groups = []) {group : Nat} {text : List Char} (htext : next.group? group = some text) :
    holds group text := by
  obtain ⟨-, more, hgroups, hmore⟩ := h
  rw [hfresh, List.append_nil] at hgroups
  obtain ⟨stretch, hlookup, rfl⟩ := Option.map_eq_some_iff.1 htext
  obtain ⟨front, back, heq, -⟩ := List.lookup_eq_some_iff.1 hlookup
  refine hmore hplaced (group, stretch) ?_
  rw [← hgroups, heq]
  exact List.mem_append_right _ List.mem_cons_self

/-- Where nothing can be captured, what has been captured before stays. -/
theorem groups_eq (h : cursor.Reads holds next) (hplaced : cursor.Placed)
    (hnone : ∀ group text, ¬holds group text) : next.groups = cursor.groups := by
  obtain ⟨-, more, hgroups, hmore⟩ := h
  cases more with
  | nil => exact hgroups
  | cons capture rest => exact absurd (hmore hplaced capture List.mem_cons_self) (hnone _ _)

end Reads

end Cursor

namespace Pattern

open Cursor (Passes Reads)

/-- Patterns that read on from place to place and capture what plain patterns match. -/
def isForward : Pattern → Bool
  | empty | char _ | place _ => true
  | seq first second | either first second => first.isForward && second.isForward
  | repeated _ _ _ body => body.isForward
  | capture _ body => body.isPlain && body.isForward
  | _ => false

/-- The texts that a group of a pattern may capture. -/
def groupLanguage (group : Nat) : Pattern → List Char → Prop
  | seq first second, text | either first second, text =>
    first.groupLanguage group text ∨ second.groupLanguage group text
  | repeated _ _ _ body, text => body.groupLanguage group text
  | capture name body, text => name = group ∧ body.language text ∨ body.groupLanguage group text
  | _, _ => False

/-- Whether a pattern has no groups. -/
def isBare : Pattern → Bool
  | seq first second | either first second => first.isBare && second.isBare
  | repeated _ _ _ body => body.isBare
  | capture _ _ => false
  | _ => true

theorem not_groupLanguage {pattern : Pattern} (h : pattern.isBare = true) (group : Nat) (text : List Char) :
    ¬pattern.groupLanguage group text := by
  induction pattern with
  | seq first second hfirst hsecond | either first second hfirst hsecond =>
    obtain ⟨hbare, hbare'⟩ := Bool.and_eq_true_iff.1 h
    exact fun hread => hread.elim (hfirst hbare) (hsecond hbare')
  | repeated eager least most body ih => exact ih h
  | capture name body ih => cases h
  | _ => exact id

/-- On every way each group captures a text that its body matches. -/
theorem reads_of_mem_ways {pattern : Pattern} (h : pattern.isForward = true) {cursor next : Cursor}
    (hnext : next ∈ pattern.ways cursor) :
    cursor.Reads (fun group => pattern.groupLanguage group) next := by
  induction pattern generalizing cursor next with
  | empty =>
    rw [List.mem_singleton.1 hnext]
    exact .refl cursor
  | char accepts =>
    obtain ⟨c, -, hpasses, hgroups⟩ := passes_of_mem_ways_char hnext
    exact .of_passes hpasses hgroups
  | seq first second hfirst hsecond =>
    obtain ⟨hforward, hforward'⟩ := Bool.and_eq_true_iff.1 h
    obtain ⟨middle, hmiddle, hnext⟩ := List.mem_flatMap.1 hnext
    exact ((hfirst hforward hmiddle).mono fun _ _ => .inl).trans
      ((hsecond hforward' hnext).mono fun _ _ => .inr)
  | either preferred other hpreferred hother =>
    obtain ⟨hforward, hforward'⟩ := Bool.and_eq_true_iff.1 h
    rcases List.mem_append.1 hnext with hnext | hnext
    · exact (hpreferred hforward hnext).mono fun _ _ => .inl
    · exact (hother hforward' hnext).mono fun _ _ => .inr
  | repeated eager least most body ih =>
    obtain ⟨middle, hmiddle, hnext⟩ := List.mem_flatMap.1 hnext
    refine .trans (related_of_mem_exactWays .refl .trans (fun _ _ => ih h) hmiddle) ?_
    split at hnext
    · next accepts haccepts =>
      obtain ⟨passed, back, hreach, -, rfl⟩ := mem_further_iff.1 hnext
      obtain ⟨rest, hrest⟩ := (List.prefix_append passed back).trans
        (hreach ▸ isPrefix_reachable least most middle.after)
      exact .of_passes (.forward hrest.symm) rfl
    · exact related_of_mem_roundWays .refl .trans (fun _ _ => ih h) hnext
  | capture group body ih =>
    obtain ⟨hplain, hforward⟩ := Bool.and_eq_true_iff.1 h
    obtain ⟨middle, hmiddle, rfl⟩ := List.mem_map.1 hnext
    obtain ⟨passed, hpassed, hpasses⟩ := exists_passes hplain hmiddle
    obtain ⟨-, more, hgroups, hmore⟩ := ih hforward hmiddle
    have hnext : cursor.Passes passed ⟨middle.before, middle.after, middle.position,
        (group, ⟨cursor.position, middle.position⟩) :: middle.groups⟩ :=
      ⟨hpasses.before, hpasses.after, hpasses.position⟩
    -- The group is closed last, so what its body has captured stands behind it in the list.
    refine ⟨⟨passed, hnext⟩, (group, ⟨cursor.position, middle.position⟩) :: more, ?_, fun hplaced => ?_⟩
    · rw [hgroups]
      rfl
    · refine List.forall_mem_cons.2 ⟨.inl ⟨rfl, ?_⟩, fun capture hcapture =>
        .inr (hmore hplaced capture hcapture)⟩
      have htext := hpasses.textOf_eq (.refl middle) hplaced
      exact htext.symm ▸ hpassed
  | place holds =>
    rw [ways] at hnext
    split at hnext
    · rw [List.mem_singleton.1 hnext]
      exact .refl cursor
    · exact absurd hnext List.not_mem_nil
  | _ => cases h

/-- Where nothing is captured, what has been captured before stays. -/
theorem groups_of_mem_ways {pattern : Pattern} (h : pattern.isForward = true) (hbare : pattern.isBare = true)
    {cursor next : Cursor} (hplaced : cursor.Placed) (hnext : next ∈ pattern.ways cursor) :
    next.groups = cursor.groups :=
  (reads_of_mem_ways h hnext).groups_eq hplaced (not_groupLanguage hbare)

/-- What a group holds after a match at the start of a text. -/
theorem groupLanguage_of_matchStart? {pattern : Pattern} (h : pattern.isForward = true)
    {line : List Char} {found : Cursor} (hfound : pattern.matchStart? line = some found) {group : Nat}
    (hcaptures : pattern.captures group = true) : pattern.groupLanguage group (found.group group) := by
  obtain ⟨text, htext⟩ := Option.isSome_iff_exists.1 (isSome_group?_of_firstEnd hcaptures hfound)
  rw [matchStart?, firstEnd_some] at hfound
  have hread := reads_of_mem_ways h (List.mem_of_head? hfound)
  rw [Cursor.group, htext]
  exact hread.holds_of_group? rfl rfl htext

/-! ### The preferred way -/

/-- There is a preferred way where a text of the language follows. -/
theorem exists_head?_of_language {pattern : Pattern} (h : pattern.isPlain = true) {cursor : Cursor}
    {text rest : List Char} (htext : pattern.language text) (hafter : cursor.after = text ++ rest) :
    ∃ finish, (pattern.ways cursor).head? = some finish := by
  obtain ⟨way, hway, -⟩ := exists_way h htext hafter
  exact Option.isSome_iff_exists.1 (List.isSome_head?.2 (List.ne_nil_of_mem hway))

/-- The preferred way through two patterns goes the preferred way through the second one. -/
theorem exists_of_head?_seq {first second : Pattern} {cursor finish : Cursor}
    (h : ((seq first second).ways cursor).head? = some finish) :
    ∃ middle ∈ first.ways cursor, (second.ways middle).head? = some finish := by
  rw [ways, List.head?_flatMap] at h
  exact List.exists_of_findSome?_eq_some h

/-- The furthest place is behind all characters that are accepted one after the other. -/
theorem head?_placesThrough (accepts : Char → Bool) (chars : List Char) (cursor : Cursor)
    (passed : List Cursor) : (placesThrough accepts chars cursor passed).head? =
      some (cursor.forward (chars.takeWhile accepts)) := by
  induction chars generalizing cursor passed with
  | nil => rfl
  | cons c rest ih =>
    rw [placesThrough, List.takeWhile_cons]
    cases accepts c with
    | false => rfl
    | true =>
      rw [if_pos rfl, if_pos rfl, ih, ← Cursor.forward_one, Cursor.forward_forward]
      rfl

theorem eq_forward_of_head? {accepts : Char → Bool} {cursor finish : Cursor}
    (h : ((oneOrMore (char accepts)).ways cursor).head? = some finish) :
    finish = cursor.forward (cursor.after.takeWhile accepts) ∧ cursor.after.takeWhile accepts ≠ [] := by
  rw [oneOrMore, ways_repeated, List.head?_flatMap] at h
  obtain ⟨middle, hmiddle, hfinish⟩ := List.exists_of_findSome?_eq_some h
  obtain ⟨passed, rest, hafter, hlength, hall, rfl⟩ := mem_exactWays_char.1 hmiddle
  obtain ⟨c, rfl⟩ := List.length_eq_one_iff.1 hlength
  rw [if_pos rfl, head?_placesThrough, Option.some_inj, Cursor.forward_forward] at hfinish
  have htake : cursor.after.takeWhile accepts = [c] ++ rest.takeWhile accepts := by
    rw [hafter, List.takeWhile_append_of_pos hall]
  rw [htake]
  refine ⟨?_, List.cons_ne_nil c _⟩
  rw [← hfinish, reachable, Cursor.after_forward hafter]

theorem groups_of_head? {group : Nat} {accepts : Char → Bool} {cursor finish : Cursor}
    (h : ((capture group (oneOrMore (char accepts))).ways cursor).head? = some finish) :
    cursor.after.takeWhile accepts ≠ [] ∧ finish.groups = (group,
      ⟨cursor.position, cursor.position + (cursor.after.takeWhile accepts).length⟩) :: cursor.groups := by
  rw [ways, List.head?_map] at h
  obtain ⟨middle, hmiddle, rfl⟩ := Option.map_eq_some_iff.1 h
  obtain ⟨rfl, hne⟩ := eq_forward_of_head? hmiddle
  exact ⟨hne, rfl⟩

/-- A captured run of accepted characters is as long as can be. -/
theorem captured_of_head? {group : Nat} {accepts : Char → Bool} {cursor finish : Cursor}
    (hplaced : cursor.Placed)
    (h : ((capture group (oneOrMore (char accepts))).ways cursor).head? = some finish) :
    ∃ stretch, finish.groups = (group, stretch) :: cursor.groups ∧
      finish.textOf stretch = cursor.after.takeWhile accepts ∧ cursor.after.takeWhile accepts ≠ [] := by
  rw [ways, List.head?_map] at h
  obtain ⟨middle, hmiddle, rfl⟩ := Option.map_eq_some_iff.1 h
  obtain ⟨rfl, hne⟩ := eq_forward_of_head? hmiddle
  have hpasses := Passes.forward (@List.takeWhile_append_dropWhile _ accepts cursor.after).symm
  have htext := hpasses.textOf_eq (.refl (cursor.forward (cursor.after.takeWhile accepts))) hplaced
  exact ⟨_, rfl, htext, hne⟩

end Pattern
end KotlinAudit
