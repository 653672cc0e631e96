import KotlinAudit.Pattern.Search

/-! Which groups a match has captured. On its way a search keeps what has been captured, so a group
that stands on every way through a pattern has taken part in every match. -/
namespace KotlinAudit

namespace Cursor

def Captured (cursor : Cursor) (group : Nat) : Prop := (cursor.groups.lookup group).isSome = true

theorem isSome_group?_iff {cursor : Cursor} {group : Nat} :
    (cursor.group? group).isSome = true ↔ cursor.Captured group := by
  rw [group?, Option.isSome_map, Captured]

/-- What has been captured at one place has been captured at another. -/
def Keeps (earlier later : Cursor) : Prop := ∀ group, earlier.Captured group → later.Captured group

namespace Keeps

variable {first second third : Cursor}

theorem refl (cursor : Cursor) : Keeps cursor cursor := fun _ h => h

theorem trans (h : Keeps first second) (hsecond : Keeps second third) : Keeps first third :=
  fun group hgroup => hsecond group (h group hgroup)

theorem of_groups (h : second.groups = first.groups) : Keeps first second := by
  intro group hgroup
  rwa [Captured, h]

/-- One more capture. -/
theorem capture (cursor : Cursor) (group : Nat) (stretch : Stretch) :
    Keeps cursor ⟨cursor.before, cursor.after, cursor.position, (group, stretch) :: cursor.groups⟩ := by
  intro other h
  simp only [Captured, List.lookup_cons]
  split
  · rfl
  · exact h

end Keeps

theorem groups_pass? {same : Char → Char → Bool} {expected : List Char} {cursor next : Cursor}
    (h : cursor.pass? same expected = some next) : next.groups = cursor.groups := by
  induction expected generalizing cursor with
  | nil =>
    cases h
    rfl
  | cons c expected ih =>
    unfold pass? at h
    split at h
    · cases h
    split at h
    · rw [ih h]
    · cases h

theorem groups_back? {cursor earlier : Cursor} {width : Nat} (h : cursor.back? width = some earlier) :
    earlier.groups = cursor.groups := by
  unfold back? at h
  split at h
  · cases h
    rfl
  · cases h

end Cursor

namespace Pattern

open Cursor (Keeps)

/-- Whether a group is captured on every way through a pattern. -/
def captures (group : Nat) : Pattern → Bool
  | empty | char _ | again _ _ | place _ | behind _ _ _ => false
  | seq first second => first.captures group || second.captures group
  | either preferred other => preferred.captures group && other.captures group
  | repeated _ least _ body => 0 < least && body.captures group
  | capture name body => name == group || body.captures group
  | ahead wanted body => wanted && body.captures group
  | committed body => body.captures group
  | ifCaptured _ present absent => present.captures group && absent.captures group

/-- A step of a search goes onward from a place related to the one where it starts. -/
def Leads (related : Cursor → Cursor → Prop) (step : Onward → Onward) : Prop :=
  ∀ (onward : Onward) (cursor finish : Cursor), step onward cursor = some finish →
    ∃ next, onward next = some finish ∧ related cursor next

section Rounds

variable {step : Onward → Onward}

theorem leads_exactly (h : Leads Keeps step) (count : Nat) :
    Leads Keeps fun onward => exactly step onward count := by
  induction count with
  | zero => exact fun _ cursor _ hfinish => ⟨cursor, hfinish, .refl cursor⟩
  | succ count ih =>
    intro onward cursor finish hfinish
    obtain ⟨middle, hmiddle, hkeeps⟩ := h _ _ _ hfinish
    obtain ⟨next, hnext, hrest⟩ := ih _ _ _ hmiddle
    exact ⟨next, hnext, hkeeps.trans hrest⟩

theorem leads_rounds (h : Leads Keeps step) (eager : Bool) (budget : Nat) :
    Leads Keeps fun onward => rounds step eager onward budget := by
  induction budget with
  | zero => exact fun _ cursor _ hfinish => ⟨cursor, hfinish, .refl cursor⟩
  | succ budget ih =>
    intro onward cursor finish hfinish
    have hfurther : ∀ {finish}, step (fun next => if next.position = cursor.position then onward next
        else rounds step eager onward budget next) cursor = some finish →
        ∃ next, onward next = some finish ∧ Keeps cursor next := by
      intro finish hstep
      obtain ⟨middle, hmiddle, hkeeps⟩ := h _ _ _ hstep
      split at hmiddle
      · exact ⟨middle, hmiddle, hkeeps⟩
      · obtain ⟨next, hnext, hrest⟩ := ih _ _ _ hmiddle
        exact ⟨next, hnext, hkeeps.trans hrest⟩
    cases eager with
    | true =>
      rcases Option.or_eq_some_iff.1 (Option.orElse_eq_or.symm.trans hfinish) with hfirst | ⟨-, hsecond⟩
      · exact hfurther hfirst
      · exact ⟨cursor, hsecond, .refl cursor⟩
    | false =>
      rcases Option.or_eq_some_iff.1 (Option.orElse_eq_or.symm.trans hfinish) with hfirst | ⟨-, hsecond⟩
      · exact ⟨cursor, hfirst, .refl cursor⟩
      · exact hfurther hsecond

/-- Passing characters captures nothing. -/
theorem groups_of_mem_placesThrough {accepts : Char → Bool} {chars : List Char} {cursor place : Cursor}
    {passed : List Cursor} {groups : List (Nat × Stretch)} (hcursor : cursor.groups = groups)
    (hpassed : ∀ place ∈ passed, place.groups = groups)
    (h : place ∈ placesThrough accepts chars cursor passed) : place.groups = groups := by
  induction chars generalizing cursor passed with
  | nil =>
    rcases List.mem_cons.1 h with rfl | h
    · exact hcursor
    · exact hpassed place h
  | cons c rest ih =>
    have hall : ∀ place ∈ cursor :: passed, place.groups = groups :=
      List.forall_mem_cons.2 ⟨hcursor, hpassed⟩
    rw [placesThrough] at h
    split at h
    · refine ih ?_ hall h
      exact hcursor
    · exact hall _ h

theorem leads_through (accepts : Char → Bool) (eager : Bool) (chars : List Char) :
    Leads Keeps (through accepts eager chars) := by
  intro onward cursor finish hfinish
  obtain ⟨next, hnext, hfinish⟩ := List.exists_of_findSome?_eq_some hfinish
  refine ⟨next, hfinish, .of_groups ?_⟩
  have hplaces : next ∈ placesThrough accepts chars cursor [] := by
    cases eager with
    | true => exact hnext
    | false => exact List.mem_reverse.1 hnext
  exact groups_of_mem_placesThrough rfl (fun _ h => absurd h List.not_mem_nil) hplaces

end Rounds

/-- What a pattern does to the captures on the way from one place to another. -/
structure Passed (pattern : Pattern) (earlier later : Cursor) : Prop where
  keeps : Keeps earlier later
  captured : ∀ group, pattern.captures group = true → later.Captured group

/-- The rounds of a repetition beyond the least number. -/
def further (eager : Bool) (least : Nat) (most : Option Nat) (body : Pattern)
    (onward : Onward) : Onward := fun next =>
  match body.single? with
  | some accepts =>
    let chars := match most with
      | some count => next.after.take (count - least)
      | none => next.after
    through accepts eager chars onward next
  | none =>
    let budget := match most with
      | some count => count - least
      | none => next.after.length + 1
    rounds body.firstEnd eager onward budget next

theorem firstEnd_repeated (eager : Bool) (least : Nat) (most : Option Nat) (body : Pattern)
    (onward : Onward) (cursor : Cursor) :
    (repeated eager least most body).firstEnd onward cursor =
      exactly body.firstEnd (further eager least most body onward) least cursor := rfl

theorem leads_repeated {body : Pattern} (h : Leads body.Passed body.firstEnd) (eager : Bool)
    (least : Nat) (most : Option Nat) :
    Leads (repeated eager least most body).Passed (repeated eager least most body).firstEnd := by
  have hstep : Leads Keeps body.firstEnd := by
    intro onward cursor finish hfinish
    obtain ⟨next, hnext, hpassed⟩ := h _ _ _ hfinish
    exact ⟨next, hnext, hpassed.keeps⟩
  have hfurther : Leads Keeps (further eager least most body) := by
    intro onward cursor finish hfinish
    unfold further at hfinish
    split at hfinish
    · exact leads_through _ eager _ _ _ _ hfinish
    · exact leads_rounds hstep eager _ _ _ _ hfinish
  intro onward cursor finish hfinish
  rw [firstEnd_repeated] at hfinish
  cases least with
  | zero =>
    obtain ⟨next, hnext, hkeeps⟩ := hfurther _ _ _ hfinish
    exact ⟨next, hnext, hkeeps, fun group hgroup => by simp [captures] at hgroup⟩
  | succ count =>
    -- What the first round has captured is kept by all later ones.
    obtain ⟨first, hfirst, hpassed⟩ := h _ _ _ hfinish
    obtain ⟨place, hplace, hrest⟩ := leads_exactly hstep count _ _ _ hfirst
    obtain ⟨next, hnext, hkeeps⟩ := hfurther _ _ _ hplace
    refine ⟨next, hnext, hpassed.keeps.trans (hrest.trans hkeeps), fun group hgroup => ?_⟩
    refine hrest.trans hkeeps group (hpassed.captured group ?_)
    simpa [captures] using hgroup

section Cases

variable {first second body : Pattern} {cursor : Cursor}

theorem leads_char (accepts : Char → Bool) : Leads (char accepts).Passed (char accepts).firstEnd := by
  intro onward cursor finish h
  obtain ⟨next, hnext, h⟩ := Option.bind_eq_some_iff.1 h
  refine ⟨next, h, .of_groups ?_, nofun⟩
  unfold Cursor.step? at hnext
  split at hnext
  · cases hnext
  split at hnext
  · cases hnext
    rfl
  · cases hnext

theorem leads_seq (hfirst : Leads first.Passed first.firstEnd) (hsecond : Leads second.Passed second.firstEnd) :
    Leads (seq first second).Passed (seq first second).firstEnd := by
  intro onward cursor finish h
  obtain ⟨middle, hmiddle, hfront⟩ := hfirst _ _ _ h
  obtain ⟨next, hnext, hback⟩ := hsecond _ _ _ hmiddle
  refine ⟨next, hnext, hfront.keeps.trans hback.keeps, fun group hgroup => ?_⟩
  rcases Bool.or_eq_true_iff.1 hgroup with hgroup | hgroup
  · exact hback.keeps group (hfront.captured group hgroup)
  · exact hback.captured group hgroup

/-- Of two ways, each captures what is captured on both. -/
theorem passed_of_way {way : Pattern} (hway : way = first ∨ way = second) {next : Cursor}
    (h : way.Passed cursor next) : (either first second).Passed cursor next := by
  refine ⟨h.keeps, fun group hgroup => h.captured group ?_⟩
  obtain ⟨hfirst, hsecond⟩ := Bool.and_eq_true_iff.1 hgroup
  obtain rfl | rfl := hway
  · exact hfirst
  · exact hsecond

theorem leads_either (hfirst : Leads first.Passed first.firstEnd)
    (hsecond : Leads second.Passed second.firstEnd) :
    Leads (either first second).Passed (either first second).firstEnd := by
  intro onward cursor finish h
  rcases Option.or_eq_some_iff.1 (Option.orElse_eq_or.symm.trans h) with h | ⟨-, h⟩
  · obtain ⟨next, hnext, hpassed⟩ := hfirst _ _ _ h
    exact ⟨next, hnext, passed_of_way (.inl rfl) hpassed⟩
  · obtain ⟨next, hnext, hpassed⟩ := hsecond _ _ _ h
    exact ⟨next, hnext, passed_of_way (.inr rfl) hpassed⟩

theorem leads_ifCaptured (hfirst : Leads first.Passed first.firstEnd)
    (hsecond : Leads second.Passed second.firstEnd) (name : Nat) :
    Leads (ifCaptured name first second).Passed (ifCaptured name first second).firstEnd := by
  intro onward cursor finish h
  simp only [firstEnd] at h
  split at h
  · obtain ⟨next, hnext, hpassed⟩ := hfirst _ _ _ h
    have hboth : (either first second).Passed cursor next := passed_of_way (.inl rfl) hpassed
    exact ⟨next, hnext, hboth.keeps, hboth.captured⟩
  · obtain ⟨next, hnext, hpassed⟩ := hsecond _ _ _ h
    have hboth : (either first second).Passed cursor next := passed_of_way (.inr rfl) hpassed
    exact ⟨next, hnext, hboth.keeps, hboth.captured⟩

theorem leads_capture (h : Leads body.Passed body.firstEnd) (name : Nat) :
    Leads (capture name body).Passed (capture name body).firstEnd := by
  intro onward cursor finish hfinish
  obtain ⟨next, hnext, hpassed⟩ := h _ _ _ hfinish
  have hcapture := Keeps.capture next name ⟨cursor.position, next.position⟩
  refine ⟨_, hnext, hpassed.keeps.trans hcapture, fun group hgroup => ?_⟩
  rcases Bool.or_eq_true_iff.1 hgroup with hname | hgroup
  · obtain rfl := eq_of_beq hname
    simp [Cursor.Captured]
  · exact hcapture group (hpassed.captured group hgroup)

theorem leads_ahead (h : Leads body.Passed body.firstEnd) (wanted : Bool) :
    Leads (ahead wanted body).Passed (ahead wanted body).firstEnd := by
  intro onward cursor finish hfinish
  simp only [firstEnd] at hfinish
  split at hfinish
  · cases wanted with
    | true => cases hfinish
    | false => exact ⟨cursor, hfinish, .refl cursor, nofun⟩
  · next found hfound =>
    cases wanted with
    | true =>
      obtain ⟨next, hnext, hpassed⟩ := h _ _ _ hfound
      cases hnext
      exact ⟨_, hfinish, hpassed.keeps, hpassed.captured⟩
    | false => cases hfinish

theorem leads_behind (h : Leads body.Passed body.firstEnd) (wanted : Bool) (width : Nat) :
    Leads (behind wanted width body).Passed (behind wanted width body).firstEnd := by
  intro onward cursor finish hfinish
  simp only [firstEnd] at hfinish
  split at hfinish
  · cases wanted with
    | true => cases hfinish
    | false => exact ⟨cursor, hfinish, .refl cursor, nofun⟩
  · next found hfound =>
    cases wanted with
    | true =>
      obtain ⟨earlier, hearlier, hfound⟩ := Option.bind_eq_some_iff.1 hfound
      obtain ⟨next, hnext, hpassed⟩ := h _ _ _ hfound
      cases hnext
      exact ⟨_, hfinish, (Keeps.of_groups (Cursor.groups_back? hearlier)).trans hpassed.keeps, nofun⟩
    | false => cases hfinish

theorem leads_committed (h : Leads body.Passed body.firstEnd) :
    Leads (committed body).Passed (committed body).firstEnd := by
  intro onward cursor finish hfinish
  obtain ⟨found, hfound, hfinish⟩ := Option.bind_eq_some_iff.1 hfinish
  obtain ⟨next, hnext, hpassed⟩ := h _ _ _ hfound
  cases hnext
  exact ⟨_, hfinish, hpassed.keeps, hpassed.captured⟩

end Cases

/-- Whatever a search finds, it has kept what was captured before and captured what stands on every
way through the pattern. -/
theorem leads_firstEnd (pattern : Pattern) : Leads pattern.Passed pattern.firstEnd := by
  induction pattern with
  | empty => exact fun _ cursor _ h => ⟨cursor, h, .refl cursor, nofun⟩
  | char accepts => exact leads_char accepts
  | seq first second hfirst hsecond => exact leads_seq hfirst hsecond
  | either preferred other hpreferred hother => exact leads_either hpreferred hother
  | repeated eager least most body ih => exact leads_repeated ih eager least most
  | capture name body ih => exact leads_capture ih name
  | again name same =>
    intro onward cursor finish h
    obtain ⟨text, -, h⟩ := Option.bind_eq_some_iff.1 h
    obtain ⟨next, hnext, h⟩ := Option.bind_eq_some_iff.1 h
    exact ⟨next, h, .of_groups (Cursor.groups_pass? hnext), nofun⟩
  | place holds =>
    intro onward cursor finish h
    simp only [firstEnd] at h
    split at h
    · exact ⟨cursor, h, .refl cursor, nofun⟩
    · cases h
  | ahead wanted body ih => exact leads_ahead ih wanted
  | behind wanted width body ih => exact leads_behind ih wanted width
  | committed body ih => exact leads_committed ih
  | ifCaptured name present absent hpresent habsent => exact leads_ifCaptured hpresent habsent name

/-- A match has captured every group that stands on every way through its pattern. -/
theorem isSome_group?_of_firstEnd {pattern : Pattern} {group : Nat}
    (h : pattern.captures group = true) {cursor finish : Cursor}
    (hfinish : pattern.firstEnd some cursor = some finish) : (finish.group? group).isSome = true := by
  obtain ⟨next, hnext, hpassed⟩ := leads_firstEnd pattern _ _ _ hfinish
  cases hnext
  exact Cursor.isSome_group?_iff.2 (hpassed.captured group h)

section Search

variable {pattern : Pattern} {group : Nat} {text : List Char}

/-- What a search finds is the preferred match at the place where it starts. -/
theorem firstEnd_of_searchFrom? {cursor : Cursor} {found : Match}
    (hfound : pattern.searchFrom? cursor = some found) :
    pattern.firstEnd some found.start = some found.finish := by
  have hsearch : ∀ (chars : List Char) (cursor : Cursor),
      pattern.searchIn chars cursor = some found →
        pattern.firstEnd some found.start = some found.finish := by
    intro chars
    induction chars with
    | nil =>
      intro cursor hfound
      obtain ⟨finish, hfinish, rfl⟩ := Option.map_eq_some_iff.1 hfound
      exact hfinish
    | cons c rest ih =>
      intro cursor hfound
      rw [searchIn] at hfound
      split at hfound
      · next finish hfinish =>
        cases hfound
        exact hfinish
      · exact ih _ hfound
  exact hsearch _ _ hfound

theorem isSome_group?_of_searchFrom? (h : pattern.captures group = true) {cursor : Cursor}
    {found : Match} (hfound : pattern.searchFrom? cursor = some found) :
    (found.group? group).isSome = true :=
  isSome_group?_of_firstEnd h (firstEnd_of_searchFrom? hfound)

/-- A match among all of them is the first one, or it is found from the end of that on, or from the place
after this. -/
theorem exists_of_mem_allFrom {budget : Nat} {cursor : Cursor} {found : Match}
    (h : found ∈ pattern.allFrom (budget + 1) cursor) :
    ∃ first, pattern.searchFrom? cursor = some first ∧ (found = first ∨
      ∃ finish next : Cursor,
        finish = ⟨first.finish.before, first.finish.after, first.finish.position, []⟩ ∧
        (next = finish ∨ finish.advance? = some next) ∧ found ∈ pattern.allFrom budget next) := by
  rw [allFrom] at h
  split at h
  · exact absurd h List.not_mem_nil
  next first hfirst =>
  refine ⟨first, hfirst, ?_⟩
  dsimp only at h
  split at h
  · split at h
    · exact .inl (List.mem_singleton.1 h)
    · next next hnext =>
      rcases List.mem_cons.1 h with rfl | hrest
      · exact .inl rfl
      · exact .inr ⟨_, next, rfl, .inr hnext, hrest⟩
  · rcases List.mem_cons.1 h with rfl | hrest
    · exact .inl rfl
    · exact .inr ⟨_, _, rfl, .inl rfl, hrest⟩

theorem isSome_group?_of_mem_findAll (h : pattern.captures group = true) {found : Match}
    (hfound : found ∈ pattern.findAll text) : (found.group? group).isSome = true := by
  have hall : ∀ (budget : Nat) (cursor : Cursor), found ∈ pattern.allFrom budget cursor →
      (found.group? group).isSome = true := by
    intro budget
    induction budget with
    | zero => exact fun _ hfound => absurd hfound List.not_mem_nil
    | succ budget ih =>
      intro cursor hfound
      obtain ⟨first, hfirst, rfl | ⟨finish, next, -, -, hrest⟩⟩ := exists_of_mem_allFrom hfound
      · exact isSome_group?_of_searchFrom? h hfirst
      · exact ih next hrest
  exact hall _ _ hfound

end Search

end Pattern
end KotlinAudit
