import KotlinAudit.Glob
import KotlinAudit.Proofs.Pattern.Language
import KotlinAudit.Proofs.Text.Scan

/-! The parts of a glob, from left to right, and the texts that they stand for one after the other. The
written pattern of an ordinary glob is that of its parts. Its parts are read one by one, and the pattern
that comes out matches the texts that the parts generate. On one line these are the texts that the glob
spells when it is read from left to right. -/
namespace KotlinAudit.Glob

inductive Part
  | letter (c : Char)
  /-- One star, for what stands between two slashes. -/
  | segment
  /-- Two stars, for what stands on one line. -/
  | any
deriving DecidableEq

/-- Stars are paired from the left. -/
def parts : List Char → List Part
  | [] => []
  | '*' :: '*' :: rest => .any :: parts rest
  | '*' :: rest => .segment :: parts rest
  | c :: rest => .letter c :: parts rest

namespace Part

def Stands : Part → List Char → Prop
  | letter c, text => text = [c]
  | segment, text => '/' ∉ text
  | any, text => '\n' ∉ text

/-- How a part is written when two stars have become a mark. -/
def marked : Part → List Char
  | letter c => if c = '.' then ['\\', '.'] else [c]
  | segment => "[^/]*".toList
  | any => '\x00' :: markTail

def written : Part → List Char
  | letter c => if c = '.' then ['\\', '.'] else [c]
  | segment => "[^/]*".toList
  | any => ".*".toList

end Part

/-- The texts made of what some parts stand for. -/
def Generates : List Part → List Char → Prop
  | [], text => text = []
  | part :: rest, text => ∃ front back, text = front ++ back ∧ part.Stands front ∧ Generates rest back

/-- The signs that a glob may not hold if it is to mean nothing but its parts: those that patterns
have beyond stars and dots, and the one that a mark begins with. -/
def reserved : List Char := ['?', '+', '^', '$', '|', '(', ')', '[', '{', '\x00']

/-- A glob that consists of stars, dots and characters of paths. -/
def Ordinary (glob : List Char) : Prop := ∀ c ∈ glob, c ∉ reserved

instance (glob : List Char) : Decidable (Ordinary glob) :=
  List.decidableBAll (· ∉ reserved) glob

variable {part : Part} {front back : List Part} {glob text more : List Char}

theorem generates_singleton : Generates [part] text ↔ part.Stands text := by
  constructor
  · rintro ⟨first, last, rfl, hfirst, rfl⟩
    rwa [List.append_nil]
  · intro h
    exact ⟨text, [], (List.append_nil text).symm, h, rfl⟩

theorem generates_append : Generates (front ++ back) text ↔
    ∃ first last, text = first ++ last ∧ Generates front first ∧ Generates back last := by
  induction front generalizing text with
  | nil =>
    constructor
    · intro h
      exact ⟨[], text, rfl, rfl, h⟩
    · rintro ⟨first, last, rfl, rfl, h⟩
      exact h
  | cons part front ih =>
    constructor
    · rintro ⟨own, others, rfl, hown, hothers⟩
      obtain ⟨first, last, rfl, hfirst, hlast⟩ := ih.1 hothers
      exact ⟨own ++ first, last, (List.append_assoc ..).symm, ⟨own, first, rfl, hown, hfirst⟩, hlast⟩
    · rintro ⟨_, last, rfl, ⟨own, first, rfl, hown, hfirst⟩, hlast⟩
      exact ⟨own, first ++ last, List.append_assoc .., hown, ih.2 ⟨first, last, rfl, hfirst, hlast⟩⟩

theorem parts_cons {c : Char} (h : c ≠ '*') (rest : List Char) :
    parts (c :: rest) = .letter c :: parts rest := by
  rw [parts]
  · rintro rest rfl -
    exact h rfl
  · exact h

theorem letter_of_mem_parts {c : Char} (h : .letter c ∈ parts glob) : c ∈ glob ∧ c ≠ '*' := by
  induction glob using parts.induct with
  | case1 => exact absurd h List.not_mem_nil
  | case2 rest ih =>
    rw [parts, List.mem_cons] at h
    obtain ⟨hmem, hstar⟩ := ih (h.resolve_left nofun)
    exact ⟨List.mem_cons_of_mem _ (List.mem_cons_of_mem _ hmem), hstar⟩
  | case3 rest hsingle ih =>
    rw [parts, List.mem_cons] at h
    · obtain ⟨hmem, hstar⟩ := ih (h.resolve_left nofun)
      exact ⟨List.mem_cons_of_mem _ hmem, hstar⟩
    · exact hsingle
  | case4 d rest _ hd ih =>
    rw [parts_cons hd, List.mem_cons] at h
    rcases h with heq | hrest
    · obtain rfl := Part.letter.inj heq
      exact ⟨List.mem_cons_self, hd⟩
    · exact ⟨List.mem_cons_of_mem _ (ih hrest).1, (ih hrest).2⟩

/-- A letter of an ordinary glob is no sign of patterns but for a dot. -/
theorem Ordinary.letter {c : Char} (h : Ordinary glob)
    (hletter : .letter c ∈ parts (Layer.normalized glob)) : c ∉ reserved ∧ c ≠ '*' ∧ c ≠ '\\' := by
  obtain ⟨hmem, hstar⟩ := letter_of_mem_parts hletter
  obtain ⟨d, hd, rfl⟩ := List.mem_map.1 hmem
  refine ⟨?_, hstar, ?_⟩
  · split
    · decide
    · exact h d hd
  · split
    · decide
    · next hd => exact fun heq => hd (beq_iff_eq.2 heq)

/-- A glob that ends in two stars ends in a part that stands for any text, whatever the first of the
stars is paired with. -/
theorem exists_parts_eq (glob : List Char) : ∃ front, parts (glob ++ ['*', '*']) = front ++ [.any] ∨
    parts (glob ++ ['*', '*']) = front ++ [.any, .segment] := by
  induction glob using parts.induct with
  | case1 => exact ⟨[], .inl rfl⟩
  | case2 rest ih =>
    obtain ⟨front, hfront⟩ := ih
    exact ⟨.any :: front, hfront.imp (congrArg (Part.any :: ·)) (congrArg (Part.any :: ·))⟩
  | case3 rest hsingle ih =>
    cases rest with
    | nil => exact ⟨[], .inr rfl⟩
    | cons c rest =>
      have hc : c ≠ '*' := fun heq => hsingle rest (by rw [heq])
      obtain ⟨front, hfront⟩ := ih
      have hparts : parts ('*' :: (c :: rest ++ ['*', '*'])) =
          .segment :: parts (c :: rest ++ ['*', '*']) := by
        rw [parts]
        rintro others heq
        exact hc (List.cons.inj heq).1
      rw [List.cons_append, hparts]
      exact ⟨.segment :: front, hfront.imp (congrArg (Part.segment :: ·)) (congrArg (Part.segment :: ·))⟩
  | case4 c rest _ hc ih =>
    obtain ⟨front, hfront⟩ := ih
    rw [List.cons_append, parts_cons hc]
    exact ⟨.letter c :: front,
      hfront.imp (congrArg (Part.letter c :: ·)) (congrArg (Part.letter c :: ·))⟩

/-! ### The written pattern -/

theorem marked_eq (glob : List Char) : marked glob = (parts glob).flatMap Part.marked := by
  induction glob using parts.induct with
  | case1 => rfl
  | case2 rest ih => rw [marked, parts, List.flatMap_cons, ih]; rfl
  | case3 rest hsingle ih =>
    rw [marked, parts, List.flatMap_cons, ih]
    · rfl
    · exact hsingle
    · exact hsingle
  | case4 c rest _ hc ih =>
    rw [parts_cons hc, List.flatMap_cons, ← ih, Part.marked]
    split
    · next hdot =>
      rw [hdot]
      rfl
    · next hdot =>
      rw [marked]
      · rfl
      · rintro rest rfl -
        exact hc rfl
      · exact hc
      · exact hdot

theorem replaceAll_marked {parts : List Part} (h : .letter '\x00' ∉ parts) :
    Text.replaceAll '\x00' markTail ".*".toList (parts.flatMap Part.marked) =
      parts.flatMap Part.written := by
  induction parts with
  | nil => exact Text.replaceAll_nil
  | cons part rest ih =>
    rw [List.mem_cons, not_or] at h
    rw [List.flatMap_cons, List.flatMap_cons, ← ih h.2]
    cases part with
    | any => exact Text.replaceAll_occurrence '\x00' markTail ".*".toList _
    | segment => exact Text.replaceAll_append_of_not_mem _ _ _ (by decide)
    | letter c =>
      have hc : '\x00' ≠ c := fun heq => h.1 (by rw [heq])
      refine Text.replaceAll_append_of_not_mem _ _ _ ?_
      rw [Part.marked]
      split
      · decide
      · rwa [List.mem_singleton]

/-- Written is what the parts are written as. -/
theorem written_eq {glob : List Char} (h : .letter '\x00' ∉ parts (Layer.normalized glob)) :
    written glob = (parts (Layer.normalized glob)).flatMap Part.written := by
  rw [written, marked_eq, replaceAll_marked h]

/-! ### Reading the parts -/

open Pattern (Sign Piece Reader Denotes)

namespace Part

def signs : Part → List Sign
  | letter c => if c = '.' then [.escaped '.'] else [.plain c]
  | segment => [.plain '[', .plain '^', .plain '/', .plain ']', .plain '*']
  | any => [.plain '.', .plain '*']

/-- What a part is read as. -/
def piece : Part → Piece
  | letter c => Pattern.literal [] c
  | segment => Pattern.repeatPiece true false 0 none (Pattern.setPiece [] true [.one '/'])
  | any => Pattern.repeatPiece true false 0 none ⟨.char (· != '\n'), 1, 1, .other⟩

/-- In how many steps a part is read. -/
def steps : Part → Nat
  | letter _ => 1
  | segment | any => 2

/-- A part that is no sign of patterns beyond stars and dots. -/
def Readable : Part → Prop
  | letter c => c ∉ reserved ∧ c ≠ '*' ∧ c ≠ '\\'
  | segment | any => True

theorem denotes_piece (part : Part) : part.piece.pattern.Denotes part.Stands := by
  cases part with
  | letter c =>
    refine (Pattern.denotes_char _).congr fun text => ?_
    simp [Stands, Pattern.agree]
  | segment =>
    refine (Pattern.denotes_many _).congr fun text => ?_
    have haccepts : ∀ c, (!Pattern.agree [] '/' c) = true ↔ '/' ≠ c := fun c => by
      simp [Pattern.agree]
    change (∀ c ∈ text, (!Pattern.agree [] '/' c) = true) ↔ '/' ∉ text
    simp only [haccepts]
    exact List.forall_mem_ne
  | any =>
    refine (Pattern.denotes_many _).congr fun text => ?_
    simp only [bne_iff_ne]
    exact List.forall_mem_ne'

end Part

variable {parts : List Part}

theorem signs?_written (h : ∀ part ∈ parts, part.Readable) :
    Pattern.signs? (parts.flatMap Part.written) = some (parts.flatMap Part.signs) := by
  induction parts with
  | nil => rfl
  | cons part rest ih =>
    rw [List.forall_mem_cons] at h
    rw [List.flatMap_cons, List.flatMap_cons]
    cases part with
    | letter c =>
      rw [Part.written, Part.signs]
      split
      · exact congrArg (Option.map (Sign.escaped '.' :: ·)) (ih h.2)
      · have hc : c ≠ '\\' := h.1.2.2
        rw [List.singleton_append, Pattern.signs?, ih h.2]
        · rfl
        · rintro rfl -
          exact hc rfl
        · rintro _ _ rfl -
          exact hc rfl
    | segment => simp [Part.written, Part.signs, Pattern.signs?, ih h.2]
    | any => simp [Part.written, Part.signs, Pattern.signs?, ih h.2]

/-- Lazy and possessive repetition do not occur. -/
def Continues (rest : List Sign) : Prop :=
  ∀ sign, rest.head? = some sign → sign ≠ .plain '?' ∧ sign ≠ .plain '+'

section Steps
variable {rest : List Sign} {reader : Reader} (budget depth : Nat) (atStart : Bool) (read : List Piece)

theorem readSequence_star {piece : Piece} (hpiece : piece.kind.isRepeatable = true)
    (hrest : Continues rest) (hreader : reader.rest = .plain '*' :: rest) :
    Pattern.readSequence (budget + 1) depth [] atStart (piece :: read) reader =
      Pattern.readSequence budget depth [] false
        (Pattern.repeatPiece true false 0 none piece :: read) (reader.moveTo rest) := by
  rw [Pattern.readSequence, hreader]
  change (if (!piece.kind.isRepeatable) = true then Reader.fail else _) = _
  rw [hpiece]
  cases rest with
  | nil => rfl
  | cons sign others =>
    obtain ⟨hlazy, hpossessive⟩ := hrest sign rfl
    cases sign with
    | escaped c => rfl
    | plain c =>
      simp only [ne_eq, Sign.plain.injEq] at hlazy hpossessive
      simp [hlazy, hpossessive]

theorem readSequence_letter {c : Char} (h : c ∉ reserved ∧ c ≠ '*' ∧ c ≠ '\\')
    (hreader : reader.rest = (Part.letter c).signs ++ rest) :
    Pattern.readSequence (budget + 1) depth [] atStart read reader =
      Pattern.readSequence budget depth [] false (Pattern.literal [] c :: read)
        (reader.moveTo rest) := by
  rw [Pattern.readSequence, hreader, Part.signs]
  by_cases hdot : c = '.'
  · rw [if_pos hdot, hdot]
    rfl
  · rw [if_neg hdot]
    simp only [reserved, List.mem_cons, not_or] at h
    simp [h]

/-- One part is read off. -/
theorem readSequence_part (h : part.Readable) (hrest : Continues rest)
    (hreader : reader.rest = part.signs ++ rest) :
    Pattern.readSequence (budget + part.steps) depth [] atStart read reader =
      Pattern.readSequence budget depth [] false (part.piece :: read) (reader.moveTo rest) := by
  cases part with
  | letter c => exact readSequence_letter budget depth atStart read h hreader
  | segment =>
    have hset : Pattern.readSequence (budget + 2) depth [] atStart read reader =
        Pattern.readSequence (budget + 1) depth [] false (Pattern.setPiece [] true [.one '/'] :: read)
          (reader.moveTo (.plain '*' :: rest)) := by
      rw [Pattern.readSequence, hreader]
      rfl
    rw [Part.steps, hset]
    exact readSequence_star budget depth false read rfl hrest rfl
  | any =>
    have hdot : Pattern.readSequence (budget + 2) depth [] atStart read reader =
        Pattern.readSequence (budget + 1) depth [] false
          (⟨.char (· != '\n'), 1, 1, .other⟩ :: read) (reader.moveTo (.plain '*' :: rest)) := by
      rw [Pattern.readSequence, hreader]
      rfl
    rw [Part.steps, hdot]
    exact readSequence_star budget depth false read rfl hrest rfl

end Steps

theorem continues_signs (h : ∀ part ∈ parts, part.Readable) : Continues (parts.flatMap Part.signs) := by
  intro sign hsign
  cases parts with
  | nil => cases hsign
  | cons part rest =>
    have hpart := h part List.mem_cons_self
    cases part with
    | letter c =>
      rw [List.flatMap_cons, Part.signs] at hsign
      split at hsign
      · cases hsign
        exact ⟨nofun, nofun⟩
      · cases hsign
        refine ⟨?_, ?_⟩ <;> rintro heq <;> obtain rfl := Sign.plain.inj heq <;>
          exact hpart.1 (by decide)
    | segment =>
      cases hsign
      decide
    | any =>
      cases hsign
      decide

/-- All parts are read up to the end. -/
theorem readSequence_parts (h : ∀ part ∈ parts, part.Readable) {reader : Reader}
    (hreader : reader.rest = parts.flatMap Part.signs) {budget : Nat}
    (hbudget : (parts.flatMap Part.signs).length < budget) (depth : Nat) (atStart : Bool)
    (read : List Piece) : Pattern.readSequence budget depth [] atStart read reader =
      .ok (Pattern.sequence (read.reverse ++ parts.map Part.piece), reader.moveTo []) := by
  induction parts generalizing reader budget atStart read with
  | nil =>
    obtain ⟨budget, rfl⟩ : ∃ less, budget = less + 1 := ⟨budget - 1, by omega⟩
    obtain ⟨rest, options, widths, names, behindFrom, tested⟩ := reader
    obtain rfl : rest = [] := hreader
    rw [Pattern.readSequence, List.map_nil, List.append_nil]
    rfl
  | cons part rest ih =>
    rw [List.forall_mem_cons] at h
    rw [List.flatMap_cons] at hreader hbudget
    have hsteps : part.steps ≤ part.signs.length := by
      cases part with
      | letter c => rw [Part.signs]; split <;> exact Nat.le_refl 1
      | segment => decide
      | any => decide
    rw [List.length_append] at hbudget
    obtain ⟨budget, rfl⟩ : ∃ less, budget = less + part.steps := ⟨budget - part.steps, by omega⟩
    rw [readSequence_part budget depth atStart read h.1 (continues_signs h.2) hreader,
      ih h.2 rfl (by omega), List.reverse_cons, List.append_assoc]
    rfl

theorem alternatives_nil (options : List Char) (piece : Piece) :
    Pattern.alternatives options piece [] = piece := by
  obtain ⟨pattern, least, greatest, kind⟩ := piece
  cases kind <;> rfl

/-- Nothing but a sequence of the parts is read. -/
theorem readAlternatives_parts (h : ∀ part ∈ parts, part.Readable) {budget : Nat}
    (hbudget : (parts.flatMap Part.signs).length + 1 < budget) : Pattern.readAlternatives budget 0 [] true
      ⟨parts.flatMap Part.signs, [], [], [], none, []⟩ =
        .ok (Pattern.sequence (parts.map Part.piece), ⟨[], [], [], [], none, []⟩) := by
  obtain ⟨budget, rfl⟩ : ∃ less, budget = less + 2 := ⟨budget - 2, by omega⟩
  rw [Pattern.readAlternatives, readSequence_parts h rfl (by omega)]
  change (Pattern.readOthers (budget + 1) 0 [] true ⟨[], [], [], [], none, []⟩ >>= fun others =>
    Except.ok (Pattern.alternatives _ _ others.1, others.2)) = _
  rw [Pattern.readOthers]
  change Except.ok (Pattern.alternatives [] (Pattern.sequence (parts.map Part.piece)) [], _) = _
  rw [alternatives_nil]

theorem denotes_foldr {combine : Piece → Piece → Piece} {last : Piece}
    (hcombine : ∀ piece rest, (combine piece rest).pattern = .seq piece.pattern rest.pattern)
    (hlast : last.pattern = .empty) (parts : List Part) :
    ((parts.map Part.piece).foldr combine last).pattern.Denotes (Generates parts) := by
  induction parts with
  | nil =>
    rw [List.map_nil, List.foldr_nil, hlast]
    exact Pattern.denotes_empty
  | cons part rest ih =>
    rw [List.map_cons, List.foldr_cons, hcombine]
    exact part.denotes_piece.seq ih

theorem denotes_sequence (parts : List Part) :
    (Pattern.sequence (parts.map Part.piece)).pattern.Denotes (Generates parts) := by
  match parts with
  | [] => exact Pattern.denotes_empty
  | [part] =>
    have hpart : (Pattern.sequence [part.piece]).pattern.Denotes part.Stands := by
      cases part with
      | letter c => exact Part.denotes_piece (.letter c)
      | segment => exact Part.denotes_piece .segment
      | any => exact Part.denotes_piece .any
    exact hpart.congr fun text => generates_singleton.symm
  | first :: second :: rest => exact denotes_foldr (fun _ _ => rfl) rfl (first :: second :: rest)

/-- An ordinary glob is a pattern, and it matches what its parts generate. -/
theorem exists_pattern {glob : List Char} (h : Ordinary glob) : ∃ found, pattern glob = .ok found ∧
    found.Denotes (Generates (Glob.parts (Layer.normalized glob))) := by
  set parts := Glob.parts (Layer.normalized glob) with hparts
  have hreadable : ∀ part ∈ parts, part.Readable := by
    intro part hpart
    cases part with
    | letter c => exact h.letter hpart
    | segment => trivial
    | any => trivial
  have hmark : Part.letter '\x00' ∉ parts := fun hmem => (h.letter hmem).1 (by decide)
  refine ⟨_, ?_, denotes_sequence parts⟩
  rw [pattern, written_eq hmark, Pattern.read, signs?_written hreadable]
  dsimp only
  rw [readAlternatives_parts hreadable (by omega)]
  rfl

/-- Whether a path matches a glob; nothing matches one that is no pattern. -/
def covers (glob path : List Char) : Bool :=
  match pattern glob with
  | .ok found => fits found path
  | .error _ => false

variable {path : List Char}

theorem covers_eq {glob : List Char} {found : Pattern} (h : pattern glob = .ok found) (path : List Char) :
    covers glob path = fits found path := by
  rw [covers, h]

theorem covers_iff (h : Ordinary glob) : covers glob path = true ↔
    Generates (Glob.parts (Layer.normalized glob)) (Layer.normalized path) := by
  obtain ⟨found, hpattern, hdenotes⟩ := exists_pattern h
  rw [covers_eq hpattern]
  exact hdenotes.matchesWhole_iff _

/-- What ends in a part for any text generates all that goes on on the same line. -/
theorem generates_more {front : List Part} {text rest : List Char}
    (hparts : parts = front ++ [.any] ∨ parts = front ++ [.any, .segment])
    (h : Generates parts text) (hline : '\n' ∉ text ++ rest) : Generates parts (text ++ rest) := by
  rcases hparts with rfl | rfl
  · obtain ⟨first, last, rfl, hfirst, -⟩ := generates_append.1 h
    rw [List.append_assoc, List.mem_append, not_or] at hline
    rw [List.append_assoc]
    exact generates_append.2 ⟨first, last ++ rest, rfl, hfirst, generates_singleton.2 hline.2⟩
  · obtain ⟨first, last, rfl, hfirst, -⟩ := generates_append.1 h
    rw [List.append_assoc, List.mem_append, not_or] at hline
    rw [List.append_assoc]
    -- the last star can stand for nothing
    exact generates_append.2 ⟨first, last ++ rest, rfl, hfirst, last ++ rest, [],
      (List.append_nil _).symm, hline.2, generates_singleton.2 List.not_mem_nil⟩

theorem not_mem_normalized {c : Char} (hc : c ≠ '/') (h : c ∉ path) : c ∉ Layer.normalized path := by
  intro hmem
  obtain ⟨d, hd, heq⟩ := List.mem_map.1 hmem
  split at heq
  · exact hc heq.symm
  · exact h (heq ▸ hd)

/-- A glob that ends in two stars matches everything below what it matches. -/
theorem covers_append (h : Ordinary glob) (hend : ['*', '*'] <:+ glob) (hcovers : covers glob path = true)
    (hline : '\n' ∉ path ++ more) : covers glob (path ++ more) = true := by
  obtain ⟨front, rfl⟩ := hend
  have hnormalized : ∀ text rest, Layer.normalized (text ++ rest) =
      Layer.normalized text ++ Layer.normalized rest := fun text rest => List.map_append
  obtain ⟨before, hparts⟩ := exists_parts_eq (Layer.normalized front)
  have hnormal := not_mem_normalized (by decide) hline
  rw [covers_iff h] at hcovers ⊢
  rw [hnormalized front] at hcovers ⊢
  rw [hnormalized path] at hnormal ⊢
  exact generates_more hparts hcovers hnormal

/-! ### The texts that a glob spells -/

/-- What a glob stands for, read from left to right: two stars for any text, a star that is left for a text
within a directory, and everything else for itself. -/
inductive Spells : List Char → List Char → Prop
  | done : Spells [] []
  | any (front : List Char) {glob back : List Char} (h : Spells glob back) :
    Spells ('*' :: '*' :: glob) (front ++ back)
  | segment {front glob back : List Char} (hsingle : glob.head? ≠ some '*') (hfront : '/' ∉ front)
    (h : Spells glob back) : Spells ('*' :: glob) (front ++ back)
  | letter {c : Char} {glob back : List Char} (hc : c ≠ '*') (h : Spells glob back) :
    Spells (c :: glob) (c :: back)

/-- On one line, where two stars stand for any text, a glob spells what its parts generate. -/
theorem spells_iff {glob text : List Char} (hline : '\n' ∉ text) :
    Spells glob text ↔ Generates (Glob.parts glob) text := by
  induction glob using Glob.parts.induct generalizing text with
  | case1 =>
    constructor
    · rintro ⟨⟩
      rfl
    · rintro rfl
      exact .done
  | case2 rest ih =>
    rw [Glob.parts]
    constructor
    · intro h
      cases h with
      | any front h =>
        rw [List.mem_append, not_or] at hline
        exact ⟨front, _, rfl, hline.1, (ih hline.2).1 h⟩
      | segment hsingle => exact absurd rfl hsingle
      | letter hc => exact absurd rfl hc
    · rintro ⟨front, back, rfl, -, h⟩
      rw [List.mem_append, not_or] at hline
      exact .any front ((ih hline.2).2 h)
  | case3 rest hsingle ih =>
    have hhead : rest.head? ≠ some '*' := by
      cases rest with
      | nil => exact nofun
      | cons c rest =>
        rintro heq
        exact hsingle rest (by rw [Option.some.inj heq])
    rw [Glob.parts]
    · constructor
      · intro h
        cases h with
        | any front h => exact absurd rfl hhead
        | segment _ hfront h =>
          rw [List.mem_append, not_or] at hline
          exact ⟨_, _, rfl, hfront, (ih hline.2).1 h⟩
        | letter hc => exact absurd rfl hc
      · rintro ⟨front, back, rfl, hfront, h⟩
        rw [List.mem_append, not_or] at hline
        exact .segment hhead hfront ((ih hline.2).2 h)
    · exact hsingle
  | case4 c rest _ hc ih =>
    rw [parts_cons hc]
    constructor
    · intro h
      cases h with
      | any => exact absurd rfl hc
      | segment => exact absurd rfl hc
      | letter _ h => exact ⟨[c], _, rfl, rfl, (ih fun hmem => hline (List.mem_cons_of_mem c hmem)).1 h⟩
    · rintro ⟨_, back, rfl, rfl, h⟩
      exact .letter hc ((ih fun hmem => hline (List.mem_cons_of_mem c hmem)).2 h)

/-- Letters and digits of any script, underscores and the signs of paths and globs make an ordinary glob. -/
theorem ordinary_of_forall {glob : List Char}
    (h : ∀ c ∈ glob, Text.isWord c = true ∨ c ∈ "-/\\.*".toList) : Ordinary glob := by
  have hreserved :
      reserved.all (fun c => !(Text.isWord c || "-/\\.*".toList.contains c)) = true := by decide
  intro c hc hmem
  have hnone := List.all_eq_true.1 hreserved c hmem
  have hany : (Text.isWord c || "-/\\.*".toList.contains c) = true := by
    rw [Bool.or_eq_true, List.contains_iff_mem]
    exact h c hc
  rw [hany] at hnone
  cases hnone

/-- A glob of letters, digits and the signs of paths and globs is a pattern, and on one line it fits the paths
that it spells, with backslashes read as slashes in both. -/
theorem fits_iff_spells {glob : List Char}
    (h : ∀ c ∈ glob, Text.isWord c = true ∨ c ∈ "-/\\.*".toList) :
    ∃ found, pattern glob = .ok found ∧ ∀ path, '\n' ∉ path →
      (fits found path = true ↔ Spells (Layer.normalized glob) (Layer.normalized path)) := by
  obtain ⟨found, hpattern, hdenotes⟩ := exists_pattern (ordinary_of_forall h)
  refine ⟨found, hpattern, fun path hline => ?_⟩
  rw [spells_iff (not_mem_normalized (by decide) hline)]
  exact hdenotes.matchesWhole_iff _

/-- Of three stars the first two go together, and the third one is left. -/
theorem fits_iff_spells_threeStars : ∃ found, pattern "src\\***.kt".toList = .ok found ∧
    fits found "src/main\\app/A.kt".toList = true ∧
    Spells "src/***.kt".toList "src/main/app/A.kt".toList ∧
    fits found "lib/A.kt".toList = false ∧ ¬Spells "src/***.kt".toList "lib/A.kt".toList := by
  have hall : "src\\***.kt".toList.all (fun c => Text.isWord c || "-/\\.*".toList.contains c) = true := by
    decide
  obtain ⟨found, hpattern, hfits⟩ := @fits_iff_spells "src\\***.kt".toList
    (by simpa only [List.all_eq_true, Bool.or_eq_true, List.contains_iff_mem] using hall)
  have hcovered : covers "src\\***.kt".toList "src/main\\app/A.kt".toList = true := by decide +kernel
  have hother : covers "src\\***.kt".toList "lib/A.kt".toList = false := by decide +kernel
  rw [covers_eq hpattern] at hcovered hother
  refine ⟨found, hpattern, hcovered, (hfits _ (by decide)).1 hcovered, hother, fun hspells => ?_⟩
  have hfound := (hfits "lib/A.kt".toList (by decide)).2 hspells
  rw [hother] at hfound
  cases hfound

end KotlinAudit.Glob
