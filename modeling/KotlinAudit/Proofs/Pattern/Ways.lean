import KotlinAudit.Proofs.Pattern.Capture
import KotlinAudit.Proofs.Pattern.Language
import Mathlib.Data.List.Forall2

/-! All ways to match. A search goes onward from the ends of the ways through a pattern, one after the
other, so what it comes to is what the first of them leads to that leads anywhere. -/
namespace KotlinAudit

namespace Pattern

/-- A step of a search that goes onward from some places, one after the other. -/
def Tries (step : Onward → Onward) (places : Cursor → List Cursor) : Prop :=
  ∀ (onward : Onward) (cursor : Cursor), step onward cursor = (places cursor).findSome? onward

/-- What the places behind some other places lead to. -/
theorem findSome?_flatMap (places : List Cursor) (next : Cursor → List Cursor) (onward : Onward) :
    (places.flatMap next).findSome? onward =
      places.findSome? fun place => (next place).findSome? onward := by
  induction places with
  | nil => rfl
  | cons place rest ih =>
    rw [List.flatMap_cons, List.findSome?_append, List.findSome?_cons, ih]
    cases (next place).findSome? onward <;> rfl

theorem findSome?_some (places : List Cursor) : places.findSome? some = places.head? := by
  cases places <;> rfl

/-- The places after exactly so many rounds. -/
def exactWays (places : Cursor → List Cursor) : Nat → Cursor → List Cursor
  | 0, cursor => [cursor]
  | count + 1, cursor => (places cursor).flatMap (exactWays places count)

/-- The places after up to so many rounds; a round that reads nothing is the last one. -/
def roundWays (places : Cursor → List Cursor) (eager : Bool) : Nat → Cursor → List Cursor
  | 0, cursor => [cursor]
  | budget + 1, cursor =>
    let further := (places cursor).flatMap fun next =>
      if next.position = cursor.position then [next] else roundWays places eager budget next
    if eager then further ++ [cursor] else cursor :: further

/-- The places at the ends of all ways through a pattern, in the order in which they are tried. -/
def ways : Pattern → Cursor → List Cursor
  | empty, cursor => [cursor]
  | char accepts, cursor => (cursor.step? accepts).toList
  | seq first second, cursor => (first.ways cursor).flatMap second.ways
  | either preferred other, cursor => preferred.ways cursor ++ other.ways cursor
  | repeated eager least most body, cursor =>
    (exactWays body.ways least cursor).flatMap fun next =>
      match body.single? with
      | some accepts =>
        let chars := match most with
          | some count => next.after.take (count - least)
          | none => next.after
        let places := placesThrough accepts chars next []
        if eager then places else places.reverse
      | none =>
        let budget := match most with
          | some count => count - least
          | none => next.after.length + 1
        roundWays body.ways eager budget next
  | capture group body, cursor =>
    (body.ways cursor).map fun next =>
      ⟨next.before, next.after, next.position, (group, ⟨cursor.position, next.position⟩) :: next.groups⟩
  | again group same, cursor =>
    ((cursor.group? group).bind fun text => cursor.pass? same text).toList
  | place holds, cursor => if holds cursor then [cursor] else []
  | ahead wanted body, cursor =>
    match (body.ways cursor).head? with
    | none => if wanted then [] else [cursor]
    | some found =>
      if wanted then [⟨cursor.before, cursor.after, cursor.position, found.groups⟩] else []
  | behind wanted width body, cursor =>
    match (cursor.back? width).bind fun earlier => (body.ways earlier).head? with
    | none => if wanted then [] else [cursor]
    | some found =>
      if wanted then [⟨cursor.before, cursor.after, cursor.position, found.groups⟩] else []
  | committed body, cursor => (body.ways cursor).head?.toList
  | ifCaptured group present absent, cursor =>
    if (cursor.groups.lookup group).isSome then present.ways cursor else absent.ways cursor

section Tries

variable {step : Onward → Onward} {places : Cursor → List Cursor}

theorem Tries.exactly (h : Tries step places) (count : Nat) :
    Tries (fun onward => Pattern.exactly step onward count) (exactWays places count) := by
  induction count with
  | zero =>
    intro onward cursor
    exact List.findSome?_singleton.symm
  | succ count ih =>
    intro onward cursor
    change step (Pattern.exactly step onward count) cursor = _
    rw [exactWays, findSome?_flatMap, h]
    exact congrArg (fun onward => (places cursor).findSome? onward) (funext fun next => ih onward next)

theorem Tries.rounds (h : Tries step places) (eager : Bool) (budget : Nat) :
    Tries (fun onward => Pattern.rounds step eager onward budget) (roundWays places eager budget) := by
  induction budget with
  | zero =>
    intro onward cursor
    exact List.findSome?_singleton.symm
  | succ budget ih =>
    intro onward cursor
    have hfurther : step (fun next => if next.position = cursor.position then onward next
        else Pattern.rounds step eager onward budget next) cursor =
        ((places cursor).flatMap fun next => if next.position = cursor.position then [next]
          else roundWays places eager budget next).findSome? onward := by
      rw [h, findSome?_flatMap]
      refine congrArg (fun onward => (places cursor).findSome? onward) (funext fun next => ?_)
      split
      · exact List.findSome?_singleton.symm
      · exact ih onward next
    cases eager with
    | true =>
      simp only [Pattern.rounds, roundWays, if_true, hfurther, List.findSome?_append,
        List.findSome?_singleton, Option.orElse_eq_or]
    | false =>
      simp only [Pattern.rounds, roundWays, Bool.false_eq_true, if_false, hfurther,
        List.findSome?_cons, Option.orElse_eq_or]
      cases onward cursor <;> rfl

theorem tries_through (accepts : Char → Bool) (eager : Bool) (chars : List Char) :
    Tries (through accepts eager chars) fun cursor =>
      if eager then placesThrough accepts chars cursor []
      else (placesThrough accepts chars cursor []).reverse := fun _ _ => rfl

end Tries

/-- A search goes onward from the ends of all ways through a pattern in turn. -/
theorem tries_firstEnd (pattern : Pattern) : Tries pattern.firstEnd pattern.ways := by
  -- Each kind of pattern asks its parts in the order in which it lists their ways.
  induction pattern with
  | empty => exact fun _ _ => List.findSome?_singleton.symm
  | char accepts =>
    intro onward cursor
    rw [firstEnd, ways]
    cases cursor.step? accepts with
    | none => rfl
    | some next => exact List.findSome?_singleton.symm
  | seq first second hfirst hsecond =>
    intro onward cursor
    rw [firstEnd, ways, findSome?_flatMap, hfirst]
    exact congrArg (fun onward => (first.ways cursor).findSome? onward)
      (funext fun next => hsecond onward next)
  | either preferred other hpreferred hother =>
    intro onward cursor
    rw [firstEnd, ways, List.findSome?_append, ← hpreferred, ← hother, Option.orElse_eq_or]
  | repeated eager least most body ih =>
    intro onward cursor
    rw [ways, findSome?_flatMap, firstEnd_repeated]
    refine (ih.exactly least _ cursor).trans ?_
    refine congrArg (fun onward => (exactWays body.ways least cursor).findSome? onward)
      (funext fun next => ?_)
    unfold further
    cases body.single? with
    | some accepts => exact tries_through accepts eager _ onward next
    | none => exact ih.rounds eager _ onward next
  | capture group body ih =>
    intro onward cursor
    rw [firstEnd, ways, List.findSome?_map, ih]
    rfl
  | again group same =>
    intro onward cursor
    rw [firstEnd, ways, ← Option.bind_assoc]
    cases (cursor.group? group).bind fun text => cursor.pass? same text with
    | none => rfl
    | some next => exact List.findSome?_singleton.symm
  | place holds =>
    intro onward cursor
    rw [firstEnd, ways]
    split
    · exact List.findSome?_singleton.symm
    · rfl
  | ahead wanted body ih =>
    intro onward cursor
    rw [firstEnd, ways, ih, findSome?_some]
    cases (body.ways cursor).head? <;> cases wanted <;>
      exact List.findSome?_singleton.symm
  | behind wanted width body ih =>
    intro onward cursor
    rw [firstEnd, ways]
    simp only [ih _ _, findSome?_some]
    cases (cursor.back? width).bind fun earlier => (body.ways earlier).head? <;> cases wanted <;>
      exact List.findSome?_singleton.symm
  | committed body ih =>
    intro onward cursor
    rw [firstEnd, ways, ih, findSome?_some]
    cases (body.ways cursor).head? with
    | none => rfl
    | some found => exact List.findSome?_singleton.symm
  | ifCaptured group present absent hpresent habsent =>
    intro onward cursor
    rw [firstEnd, ways]
    split
    · exact hpresent onward cursor
    · exact habsent onward cursor

/-- What a search comes to is the end of the first way. -/
theorem firstEnd_some (pattern : Pattern) (cursor : Cursor) :
    pattern.firstEnd some cursor = (pattern.ways cursor).head? := by
  rw [tries_firstEnd, findSome?_some]

/-! ### Plain patterns

Patterns without conditions on the place match texts that are those of a language, wherever they stand and
whatever has been captured before. -/

/-- Single characters, repeated or not, one after the other or as alternatives, with captures. -/
def isPlain : Pattern → Bool
  | empty | char _ => true
  | seq first second | either first second => first.isPlain && second.isPlain
  | repeated _ _ _ body => body.single?.isSome
  | capture _ body => body.isPlain
  | _ => false

/-- The texts that a plain pattern matches. -/
def language : Pattern → List Char → Prop
  | empty, text => text = []
  | char accepts, text => ∃ c, text = [c] ∧ accepts c = true
  | seq first second, text =>
    ∃ front back, text = front ++ back ∧ first.language front ∧ second.language back
  | either preferred other, text => preferred.language text ∨ other.language text
  | repeated _ least most body, text =>
    least ≤ text.length ∧ (∀ count ∈ most, text.length ≤ max least count) ∧
      ∀ c ∈ text, body.language [c]
  | capture _ body, text => body.language text
  | _, _ => False

end Pattern

namespace Cursor

/-- The way from one place to another runs over a text. -/
structure Passes (cursor : Cursor) (passed : List Char) (next : Cursor) : Prop where
  before : next.before = passed.reverse ++ cursor.before
  after : cursor.after = passed ++ next.after
  position : next.position = cursor.position + passed.length

namespace Passes

variable {cursor middle next : Cursor} {passed more : List Char}

theorem refl (cursor : Cursor) : cursor.Passes [] cursor := ⟨rfl, rfl, rfl⟩

theorem trans (h : cursor.Passes passed middle) (hmore : middle.Passes more next) :
    cursor.Passes (passed ++ more) next where
  before := by rw [hmore.before, h.before, List.reverse_append, List.append_assoc]
  after := by rw [h.after, hmore.after, List.append_assoc]
  position := by rw [hmore.position, h.position, List.length_append, Nat.add_assoc]

theorem forward {rest : List Char} (h : cursor.after = passed ++ rest) :
    cursor.Passes passed (cursor.forward passed) :=
  ⟨rfl, by rw [after_forward h, h], rfl⟩

/-- The text between two places. -/
theorem since_eq (h : cursor.Passes passed next) : next.since cursor = passed := by
  rw [since, h.before, h.position, Nat.add_sub_cancel_left, ← List.length_reverse,
    List.take_left', List.reverse_reverse]
  rfl

end Passes

/-- A place that is come to by reading on. -/
def Reaches (cursor next : Cursor) : Prop := ∃ passed, cursor.Passes passed next

namespace Reaches

variable {cursor middle next : Cursor}

theorem refl (cursor : Cursor) : cursor.Reaches cursor := ⟨[], .refl cursor⟩

theorem trans : cursor.Reaches middle → middle.Reaches next → cursor.Reaches next :=
  fun ⟨passed, hpasses⟩ ⟨more, hmore⟩ => ⟨passed ++ more, hpasses.trans hmore⟩

/-- What has been captured does not matter. -/
theorem of_same {groups : List (Nat × Stretch)}
    (h : next = ⟨cursor.before, cursor.after, cursor.position, groups⟩) : cursor.Reaches next :=
  ⟨[], by rw [h]; exact ⟨rfl, rfl, rfl⟩⟩

theorem of_pass? {same : Char → Char → Bool} {expected : List Char}
    (h : cursor.pass? same expected = some next) : cursor.Reaches next := by
  induction expected generalizing cursor with
  | nil =>
    obtain rfl := Option.some.inj h
    exact .refl _
  | cons c expected ih =>
    unfold pass? at h
    split at h
    · cases h
    · next d rest hafter =>
      split at h
      · have hstep : cursor.Passes [d] ⟨d :: cursor.before, rest, cursor.position + 1, cursor.groups⟩ :=
          ⟨rfl, hafter, rfl⟩
        exact .trans ⟨[d], hstep⟩ (ih h)
      · cases h

end Reaches

end Cursor

namespace Pattern

open Cursor (Passes)

theorem mem_ways_char {accepts : Char → Bool} {cursor next : Cursor} :
    next ∈ (char accepts).ways cursor ↔
      ∃ c rest, cursor.after = c :: rest ∧ accepts c = true ∧ next = cursor.forward [c] := by
  obtain ⟨before, after, position, groups⟩ := cursor
  rw [ways, Option.mem_toList, Cursor.step?]
  cases after with
  | nil => exact iff_of_false (by rintro ⟨⟩) (by rintro ⟨c, rest, h, -⟩; cases h)
  | cons d others =>
    dsimp only
    split
    · next haccepts =>
      rw [Option.some_inj]
      constructor
      · rintro rfl
        exact ⟨d, others, rfl, haccepts, rfl⟩
      · rintro ⟨c, rest, h, -, rfl⟩
        cases h
        rfl
    · next hrefuses =>
      refine iff_of_false (by rintro ⟨⟩) ?_
      rintro ⟨c, rest, h, hc, -⟩
      cases h
      exact hrefuses hc

theorem eq_char_of_single? {pattern : Pattern} {accepts : Char → Bool}
    (h : pattern.single? = some accepts) : pattern = char accepts := by
  cases pattern with
  | char other =>
    cases h
    rfl
  | _ => cases h

/-- Some rounds over single characters. -/
theorem mem_exactWays_char {accepts : Char → Bool} {count : Nat} {cursor next : Cursor} :
    next ∈ exactWays (char accepts).ways count cursor ↔ ∃ passed rest, cursor.after = passed ++ rest ∧
      passed.length = count ∧ (∀ c ∈ passed, accepts c = true) ∧ next = cursor.forward passed := by
  induction count generalizing cursor with
  | zero =>
    rw [exactWays, List.mem_singleton]
    constructor
    · rintro rfl
      exact ⟨[], next.after, rfl, rfl, List.forall_mem_nil _, rfl⟩
    · rintro ⟨passed, rest, -, hlength, -, rfl⟩
      rw [List.eq_nil_of_length_eq_zero hlength]
      rfl
  | succ count ih =>
    rw [exactWays, List.mem_flatMap]
    constructor
    · rintro ⟨middle, hmiddle, hnext⟩
      obtain ⟨c, others, hafter, hc, rfl⟩ := mem_ways_char.1 hmiddle
      obtain ⟨passed, rest, hothers, hlength, hall, rfl⟩ := ih.1 hnext
      rw [@Cursor.after_forward cursor [c] _ hafter] at hothers
      refine ⟨c :: passed, rest, ?_, by rw [List.length_cons, hlength],
        List.forall_mem_cons.2 ⟨hc, hall⟩, Cursor.forward_forward _ _ _⟩
      rw [hafter, hothers, List.cons_append]
    · rintro ⟨passed, rest, hafter, hlength, hall, rfl⟩
      obtain ⟨c, passed, rfl⟩ := List.exists_cons_of_length_eq_add_one hlength
      rw [List.forall_mem_cons] at hall
      refine ⟨cursor.forward [c], mem_ways_char.2 ⟨c, passed ++ rest, hafter, hall.1, rfl⟩,
        ih.2 ⟨passed, rest, @Cursor.after_forward cursor [c] _ hafter,
          Nat.succ.inj hlength, hall.2, ?_⟩⟩
      rw [Cursor.forward_forward]
      rfl

/-- The text that the rounds beyond the least number may run over. -/
def reachable (least : Nat) (most : Option Nat) (text : List Char) : List Char :=
  match most with
  | some count => text.take (count - least)
  | none => text

theorem isPrefix_reachable (least : Nat) (most : Option Nat) (text : List Char) :
    reachable least most text <+: text := by
  cases most with
  | none => exact List.prefix_refl text
  | some count => exact List.take_prefix _ _

theorem ways_repeated (accepts : Char → Bool) (eager : Bool) (least : Nat) (most : Option Nat)
    (cursor : Cursor) : (repeated eager least most (char accepts)).ways cursor =
      (exactWays (char accepts).ways least cursor).flatMap fun next =>
        if eager then placesThrough accepts (reachable least most next.after) next []
        else (placesThrough accepts (reachable least most next.after) next []).reverse := rfl

/-- The rounds beyond the least number run over accepted characters. -/
theorem mem_further_iff {accepts : Char → Bool} {eager : Bool} {least : Nat} {most : Option Nat}
    {cursor next : Cursor} :
    next ∈ (if eager then placesThrough accepts (reachable least most cursor.after) cursor []
        else (placesThrough accepts (reachable least most cursor.after) cursor []).reverse) ↔
      ∃ passed rest, reachable least most cursor.after = passed ++ rest ∧
        (∀ c ∈ passed, accepts c = true) ∧ next = cursor.forward passed := by
  have hplaces := @mem_placesThrough accepts _ cursor next [] (isPrefix_reachable least most _)
  rw [or_iff_right List.not_mem_nil] at hplaces
  cases eager with
  | true => exact hplaces
  | false => exact List.mem_reverse.trans hplaces

theorem mem_ways_repeated {accepts : Char → Bool} {eager : Bool} {least : Nat} {most : Option Nat}
    {cursor next : Cursor} :
    next ∈ (repeated eager least most (char accepts)).ways cursor ↔
      ∃ passed rest, cursor.after = passed ++ rest ∧ least ≤ passed.length ∧
        (∀ count ∈ most, passed.length ≤ max least count) ∧ (∀ c ∈ passed, accepts c = true) ∧
        next = cursor.forward passed := by
  rw [ways_repeated, List.mem_flatMap]
  constructor
  · rintro ⟨middle, hmiddle, hnext⟩
    obtain ⟨first, others, hafter, hlength, hall, rfl⟩ := mem_exactWays_char.1 hmiddle
    obtain ⟨front, back, hreach, hfront, rfl⟩ := mem_further_iff.1 hnext
    rw [Cursor.after_forward hafter] at hreach
    obtain ⟨rest, hrest⟩ := (List.prefix_append front back).trans
      (hreach ▸ isPrefix_reachable least most others)
    refine ⟨first ++ front, rest, ?_, ?_, ?_, List.forall_mem_append.2 ⟨hall, hfront⟩,
      Cursor.forward_forward _ _ _⟩
    · rw [hafter, ← hrest, List.append_assoc]
    · rw [List.length_append, hlength]
      exact Nat.le_add_right _ _
    · rintro count rfl
      have hshort := congrArg List.length hreach
      rw [reachable, List.length_take, List.length_append] at hshort
      rw [List.length_append, hlength]
      omega
  -- The least number of rounds runs over the beginning, and those beyond it over the rest.
  · rintro ⟨passed, rest, hafter, hleast, hmost, hall, rfl⟩
    refine ⟨cursor.forward (passed.take least), mem_exactWays_char.2 ⟨passed.take least,
      passed.drop least ++ rest, ?_, ?_, fun c hc => hall c (List.mem_of_mem_take hc), rfl⟩,
      mem_further_iff.2 ?_⟩
    · rw [← List.append_assoc, List.take_append_drop, hafter]
    · rw [List.length_take, Nat.min_eq_left hleast]
    · have hrest : (cursor.forward (passed.take least)).after = passed.drop least ++ rest :=
        Cursor.after_forward (by rw [← List.append_assoc, List.take_append_drop, hafter])
      have hreach : passed.drop least <+: reachable least most (passed.drop least ++ rest) := by
        cases most with
        | none => exact List.prefix_append _ _
        | some count =>
          have hcount := hmost count rfl
          rw [reachable, List.prefix_take_iff, List.length_drop]
          exact ⟨List.prefix_append _ _, by omega⟩
      obtain ⟨back, hback⟩ := hreach
      rw [hrest]
      refine ⟨passed.drop least, back, hback.symm, fun c hc => hall c (List.mem_of_mem_drop hc), ?_⟩
      rw [Cursor.forward_forward, List.take_append_drop]

/-! ### What is passed and captured on a way -/

theorem passes_of_mem_ways_char {accepts : Char → Bool} {cursor next : Cursor}
    (h : next ∈ (char accepts).ways cursor) :
    ∃ c, accepts c = true ∧ cursor.Passes [c] next ∧ next.groups = cursor.groups := by
  obtain ⟨c, rest, hafter, hc, rfl⟩ := mem_ways_char.1 h
  exact ⟨c, hc, @Passes.forward cursor [c] rest hafter, rfl⟩

theorem passes_of_mem_ways_repeated {accepts : Char → Bool} {eager : Bool} {least : Nat}
    {most : Option Nat} {cursor next : Cursor}
    (h : next ∈ (repeated eager least most (char accepts)).ways cursor) :
    ∃ passed, least ≤ passed.length ∧ (∀ count ∈ most, passed.length ≤ max least count) ∧
      (∀ c ∈ passed, accepts c = true) ∧ cursor.Passes passed next ∧ next.groups = cursor.groups := by
  obtain ⟨passed, rest, hafter, hleast, hmost, hall, rfl⟩ := mem_ways_repeated.1 h
  exact ⟨passed, hleast, hmost, hall, .forward hafter, rfl⟩

/-- A capture adds what its body passes. -/
theorem exists_of_mem_ways_capture {group : Nat} {body : Pattern} {cursor next : Cursor}
    (h : next ∈ (capture group body).ways cursor) : ∃ middle ∈ body.ways cursor,
      next.groups = (group, ⟨cursor.position, next.position⟩) :: middle.groups ∧
      ∀ passed, cursor.Passes passed middle → cursor.Passes passed next := by
  obtain ⟨middle, hmiddle, rfl⟩ := List.mem_map.1 h
  exact ⟨middle, hmiddle, rfl, fun passed hpasses =>
    ⟨hpasses.before, hpasses.after, hpasses.position⟩⟩

section Rounds

variable {related : Cursor → Cursor → Prop} {places : Cursor → List Cursor} {cursor next : Cursor}
  (hrefl : ∀ cursor, related cursor cursor)
  (htrans : ∀ {first second third}, related first second → related second third → related first third)
  (h : ∀ cursor, ∀ next ∈ places cursor, related cursor next)

include hrefl htrans h

/-- What holds between the ends of each round holds between the ends of all rounds. -/
theorem related_of_mem_exactWays {count : Nat} (hnext : next ∈ exactWays places count cursor) :
    related cursor next := by
  induction count generalizing cursor with
  | zero =>
    rw [List.mem_singleton.1 hnext]
    exact hrefl cursor
  | succ count ih =>
    obtain ⟨middle, hmiddle, hnext⟩ := List.mem_flatMap.1 hnext
    exact htrans (h cursor middle hmiddle) (ih hnext)

theorem related_of_mem_roundWays {eager : Bool} {budget : Nat}
    (hnext : next ∈ roundWays places eager budget cursor) : related cursor next := by
  induction budget generalizing cursor with
  | zero =>
    rw [List.mem_singleton.1 hnext]
    exact hrefl cursor
  | succ budget ih =>
    have hfurther : next ∈ ((places cursor).flatMap fun middle =>
        if middle.position = cursor.position then [middle]
        else roundWays places eager budget middle) → related cursor next := by
      intro hnext
      obtain ⟨middle, hmiddle, hnext⟩ := List.mem_flatMap.1 hnext
      split at hnext
      · rw [List.mem_singleton.1 hnext]
        exact h cursor middle hmiddle
      · exact htrans (h cursor middle hmiddle) (ih hnext)
    cases eager with
    | true =>
      rcases List.mem_append.1 hnext with hnext | hnext
      · exact hfurther hnext
      · rw [List.mem_singleton.1 hnext]
        exact hrefl cursor
    | false =>
      rcases List.mem_cons.1 hnext with rfl | hnext
      · exact hrefl next
      · exact hfurther hnext

end Rounds

/-- Every way through any pattern reads on. -/
theorem reaches_of_mem_ways {pattern : Pattern} {cursor next : Cursor} (hnext : next ∈ pattern.ways cursor) :
    cursor.Reaches next := by
  induction pattern generalizing cursor next with
  | empty =>
    rw [List.mem_singleton.1 hnext]
    exact .refl cursor
  | char accepts =>
    obtain ⟨c, -, hpasses, -⟩ := passes_of_mem_ways_char hnext
    exact ⟨[c], hpasses⟩
  | seq first second hfirst hsecond =>
    obtain ⟨middle, hmiddle, hnext⟩ := List.mem_flatMap.1 hnext
    exact (hfirst hmiddle).trans (hsecond hnext)
  | either preferred other hpreferred hother => exact (List.mem_append.1 hnext).elim hpreferred hother
  | repeated eager least most body ih =>
    obtain ⟨middle, hmiddle, hnext⟩ := List.mem_flatMap.1 hnext
    refine .trans (related_of_mem_exactWays .refl .trans (fun _ _ => ih) hmiddle) ?_
    split at hnext
    · obtain ⟨passed, back, hreach, -, rfl⟩ := mem_further_iff.1 hnext
      obtain ⟨rest, hrest⟩ := (List.prefix_append passed back).trans
        (hreach ▸ isPrefix_reachable least most middle.after)
      exact ⟨passed, .forward hrest.symm⟩
    · exact related_of_mem_roundWays .refl .trans (fun _ _ => ih) hnext
  | capture group body ih =>
    obtain ⟨middle, hmiddle, -, hcapture⟩ := exists_of_mem_ways_capture hnext
    obtain ⟨passed, hpasses⟩ := ih hmiddle
    exact ⟨passed, hcapture passed hpasses⟩
  | again group same =>
    obtain ⟨text, -, hpass⟩ := Option.bind_eq_some_iff.1 (Option.mem_toList.1 hnext)
    exact .of_pass? hpass
  | place holds =>
    rw [ways] at hnext
    split at hnext
    · exact .of_same (List.mem_singleton.1 hnext)
    · exact absurd hnext List.not_mem_nil
  | ahead wanted body ih | behind wanted width body ih =>
    rw [ways] at hnext
    split at hnext <;> split at hnext
    · exact absurd hnext List.not_mem_nil
    · exact .of_same (List.mem_singleton.1 hnext)
    · exact .of_same (List.mem_singleton.1 hnext)
    · exact absurd hnext List.not_mem_nil
  | committed body ih => exact ih (List.mem_of_head? (Option.mem_toList.1 hnext))
  | ifCaptured group present absent hpresent habsent =>
    rw [ways] at hnext
    split at hnext
    · exact hpresent hnext
    · exact habsent hnext

/-! ### Ways and languages -/

theorem language_char_iff {accepts : Char → Bool} {c : Char} :
    (char accepts).language [c] ↔ accepts c = true := by
  constructor
  · rintro ⟨d, h, hd⟩
    cases h
    exact hd
  · exact fun h => ⟨c, rfl, h⟩

theorem language_oneOrMore_iff {accepts : Char → Bool} {text : List Char} :
    (oneOrMore (char accepts)).language text ↔ text ≠ [] ∧ ∀ c ∈ text, accepts c = true := by
  constructor
  · rintro ⟨hleast, -, hall⟩
    exact ⟨List.ne_nil_of_length_pos hleast, fun c hc => language_char_iff.1 (hall c hc)⟩
  · rintro ⟨hne, hall⟩
    exact ⟨List.length_pos_iff.2 hne, nofun, fun c hc => language_char_iff.2 (hall c hc)⟩

/-- Every way through a plain pattern runs over a text of its language. -/
theorem exists_passes {pattern : Pattern} (h : pattern.isPlain = true) {cursor next : Cursor}
    (hnext : next ∈ pattern.ways cursor) :
    ∃ passed, pattern.language passed ∧ cursor.Passes passed next := by
  induction pattern generalizing cursor next with
  | empty =>
    rw [List.mem_singleton.1 hnext]
    exact ⟨[], rfl, .refl cursor⟩
  | char accepts =>
    obtain ⟨c, hc, hpasses, -⟩ := passes_of_mem_ways_char hnext
    exact ⟨[c], ⟨c, rfl, hc⟩, hpasses⟩
  | seq first second hfirst hsecond =>
    obtain ⟨hplain, hplain'⟩ := Bool.and_eq_true_iff.1 h
    obtain ⟨middle, hmiddle, hnext⟩ := List.mem_flatMap.1 hnext
    obtain ⟨front, hfront, hpasses⟩ := hfirst hplain hmiddle
    obtain ⟨back, hback, hpasses'⟩ := hsecond hplain' hnext
    exact ⟨front ++ back, ⟨front, back, rfl, hfront, hback⟩, hpasses.trans hpasses'⟩
  | either preferred other hpreferred hother =>
    obtain ⟨hplain, hplain'⟩ := Bool.and_eq_true_iff.1 h
    rcases List.mem_append.1 hnext with hnext | hnext
    · obtain ⟨passed, hpassed, hpasses⟩ := hpreferred hplain hnext
      exact ⟨passed, .inl hpassed, hpasses⟩
    · obtain ⟨passed, hpassed, hpasses⟩ := hother hplain' hnext
      exact ⟨passed, .inr hpassed, hpasses⟩
  | repeated eager least most body ih =>
    obtain ⟨accepts, haccepts⟩ := Option.isSome_iff_exists.1 h
    obtain rfl := eq_char_of_single? haccepts
    obtain ⟨passed, hleast, hmost, hall, hpasses, -⟩ := passes_of_mem_ways_repeated hnext
    exact ⟨passed, ⟨hleast, hmost, fun c hc => language_char_iff.2 (hall c hc)⟩, hpasses⟩
  | capture group body ih =>
    obtain ⟨middle, hmiddle, -, hcapture⟩ := exists_of_mem_ways_capture hnext
    obtain ⟨passed, hpassed, hpasses⟩ := ih h hmiddle
    exact ⟨passed, hpassed, hcapture passed hpasses⟩
  | _ => cases h

/-- There is a way through a plain pattern over every text of its language. -/
theorem exists_way {pattern : Pattern} (h : pattern.isPlain = true) {cursor : Cursor}
    {passed rest : List Char} (hpassed : pattern.language passed) (hafter : cursor.after = passed ++ rest) :
    ∃ next ∈ pattern.ways cursor, cursor.Passes passed next := by
  induction pattern generalizing cursor passed rest with
  | empty =>
    obtain rfl : passed = [] := hpassed
    exact ⟨cursor, List.mem_singleton_self cursor, .refl cursor⟩
  | char accepts =>
    obtain ⟨c, rfl, hc⟩ := hpassed
    exact ⟨_, mem_ways_char.2 ⟨c, rest, hafter, hc, rfl⟩, .forward hafter⟩
  | seq first second hfirst hsecond =>
    obtain ⟨hplain, hplain'⟩ := Bool.and_eq_true_iff.1 h
    obtain ⟨front, back, rfl, hfront, hback⟩ := hpassed
    rw [List.append_assoc] at hafter
    obtain ⟨middle, hmiddle, hpasses⟩ := hfirst hplain hfront hafter
    obtain ⟨next, hnext, hpasses'⟩ := hsecond hplain' hback
      (List.append_cancel_left (hpasses.after.symm.trans hafter))
    exact ⟨next, List.mem_flatMap.2 ⟨middle, hmiddle, hnext⟩, hpasses.trans hpasses'⟩
  | either preferred other hpreferred hother =>
    obtain ⟨hplain, hplain'⟩ := Bool.and_eq_true_iff.1 h
    rcases hpassed with hpassed | hpassed
    · obtain ⟨next, hnext, hpasses⟩ := hpreferred hplain hpassed hafter
      exact ⟨next, List.mem_append_left _ hnext, hpasses⟩
    · obtain ⟨next, hnext, hpasses⟩ := hother hplain' hpassed hafter
      exact ⟨next, List.mem_append_right _ hnext, hpasses⟩
  | repeated eager least most body ih =>
    obtain ⟨accepts, haccepts⟩ := Option.isSome_iff_exists.1 h
    obtain rfl := eq_char_of_single? haccepts
    obtain ⟨hleast, hmost, hall⟩ := hpassed
    exact ⟨_, mem_ways_repeated.2 ⟨passed, rest, hafter, hleast, hmost,
      fun c hc => language_char_iff.1 (hall c hc), rfl⟩, .forward hafter⟩
  | capture group body ih =>
    obtain ⟨middle, hmiddle, hpasses⟩ := ih h hpassed hafter
    exact ⟨_, List.mem_map_of_mem hmiddle, ⟨hpasses.before, hpasses.after, hpasses.position⟩⟩
  | _ => cases h

/-! ### Texts in patterns -/

/-- One character after the other. -/
theorem language_all_char_iff {α : Type} {accepts : α → Char → Bool} {expected : List α} {text : List Char} :
    (all (expected.map fun item => char (accepts item))).language text ↔
      List.Forall₂ (fun item c => accepts item c = true) expected text := by
  induction expected generalizing text with
  | nil => exact List.forall₂_nil_left_iff.symm
  | cons item expected ih =>
    have hcons : (all ((item :: expected).map fun item => char (accepts item))).language text ↔
        ∃ c rest, text = c :: rest ∧ accepts item c = true ∧
          (all (expected.map fun item => char (accepts item))).language rest := by
      cases expected with
      | nil =>
        constructor
        · rintro ⟨c, rfl, hc⟩
          exact ⟨c, [], rfl, hc, rfl⟩
        · rintro ⟨c, rest, rfl, hc, rfl⟩
          exact ⟨c, rfl, hc⟩
      | cons next expected =>
        constructor
        · rintro ⟨front, rest, rfl, ⟨c, rfl, hc⟩, hrest⟩
          exact ⟨c, rest, rfl, hc, hrest⟩
        · rintro ⟨c, rest, rfl, hc, hrest⟩
          exact ⟨[c], rest, rfl, ⟨c, rfl, hc⟩, hrest⟩
    rw [hcons, List.forall₂_cons_left_iff]
    constructor
    · rintro ⟨c, rest, rfl, hc, hrest⟩
      exact ⟨c, rest, hc, ih.1 hrest, rfl⟩
    · rintro ⟨c, rest, hc, hrest, rfl⟩
      exact ⟨c, rest, rfl, hc, ih.2 hrest⟩

theorem language_chars_iff {expected text : List Char} : (chars expected).language text ↔ text = expected := by
  have hsame : (fun c d : Char => (d == c) = true) = (· = ·) := by
    funext c d
    rw [beq_iff_eq]
    exact propext eq_comm
  have h := @language_all_char_iff Char (fun c d => d == c) expected text
  rw [hsame, List.forall₂_eq_eq_eq] at h
  exact h.trans eq_comm

theorem language_texts_iff {words : List String} (hwords : words ≠ []) {text : List Char} :
    (texts words).language text ↔ ∃ word ∈ words, text = word.toList := by
  match words with
  | [word] =>
    simp only [List.mem_singleton, exists_eq_left]
    exact language_chars_iff
  | word :: next :: others =>
    rw [List.exists_mem_cons_iff, ← language_texts_iff (List.cons_ne_nil next others)]
    exact or_congr_left language_chars_iff

theorem isPlain_chars (text : List Char) : (chars text).isPlain = true := by
  match text with
  | [] => rfl
  | [_] => rfl
  | _ :: next :: rest => exact isPlain_chars (next :: rest)

theorem isPlain_texts (words : List String) : (texts words).isPlain = true := by
  match words with
  | [] => rfl
  | [word] => exact isPlain_chars _
  | word :: next :: rest => exact Bool.and_eq_true_iff.2 ⟨isPlain_chars _, isPlain_texts (next :: rest)⟩

/-! ### Conditions on what follows -/

theorem mem_ways_ahead_false {body : Pattern} {cursor next : Cursor} :
    next ∈ (ahead false body).ways cursor ↔ body.ways cursor = [] ∧ next = cursor := by
  rw [ways]
  cases hbody : body.ways cursor with
  | nil => simp
  | cons first rest => simp

end Pattern
end KotlinAudit
