import Mathlib.Data.List.Basic

/-!
# Scanning configuration text into tokens

A scanner for the configuration languages that are written with words, numbers, quoted
strings, one-character symbols and `//` comments. `scan` reads a text from one of five
modes and returns what is left of the token it is in, and the tokens after it; no
accumulator is carried, so that scanning a known piece of text in front of an unknown
rest is a computation.

`Segment s ts` says that a text `s` begins and ends between tokens and reads as `ts`
whatever follows. Segments compose (`Segment.append`, `Segment.join`), so a generated text
is read block by block. The last section has what decimal numbers inside a name need:
their characters are digits (`forall_isDigit_repr`), the scanner passes over them in every
mode but the one between tokens, and a number inside a longer name determines the number
(`repr_append_inj`).
-/

set_option autoImplicit false

namespace Lexing

/-- A token: a word, a number, the inside of a quoted string, or a symbol. -/
inductive Token where
  | word (s : String)
  | num (s : String)
  | str (s : String)
  | sym (c : Char)
deriving DecidableEq, Repr

/-- Where the scanner stands: between tokens, inside a word, a number or a quoted
string, or inside a comment. -/
inductive Mode where
  | code
  | word
  | num
  | str
  | comment

/-- The characters a word goes on with. -/
def isWordChar (c : Char) : Bool := c.isAlphanum || c == '_'

/-- The characters a number goes on with. -/
def isNumChar (c : Char) : Bool := c.isDigit || c == '.'

/-- The tokens from a character between tokens on, given the character after it and how
the rest of the text reads in each mode. -/
def fromCode (c : Char) (next : Option Char) (rest : Mode → List Char × List Token) :
    List Token :=
  if c.isWhitespace then (rest .code).2
  else if c = '"' then .str (String.ofList (rest .str).1) :: (rest .str).2
  else if c.isDigit then .num (String.ofList (c :: (rest .num).1)) :: (rest .num).2
  else if isWordChar c then .word (String.ofList (c :: (rest .word).1)) :: (rest .word).2
  else if c = '/' ∧ next = some '/' then (rest .comment).2
  else .sym c :: (rest .code).2

/-- The scanner: the rest of the token it is inside of, and the tokens after that. -/
def scan : List Char → Mode → List Char × List Token
  | [], _ => ([], [])
  | c :: cs, .code => ([], fromCode c cs.head? (scan cs))
  | c :: cs, .word =>
      if isWordChar c then (c :: (scan cs .word).1, (scan cs .word).2)
      else ([], fromCode c cs.head? (scan cs))
  | c :: cs, .num =>
      if isNumChar c then (c :: (scan cs .num).1, (scan cs .num).2)
      else ([], fromCode c cs.head? (scan cs))
  | c :: cs, .str =>
      if c = '"' then ([], (scan cs .code).2) else (c :: (scan cs .str).1, (scan cs .str).2)
  | c :: cs, .comment =>
      if c = '\n' then ([], (scan cs .code).2) else ([], (scan cs .comment).2)

/-- The tokens of a text. -/
def tokens (s : List Char) : List Token := (scan s .code).2

/-! ## Readers with a state -/

section Reads

variable {σ α β : Type} {read : σ → List α → β} {a b c : σ} {s t : List α}

/-- Reading `s` takes a reader from one state to another, whatever follows. -/
def Reads (read : σ → List α → β) (a : σ) (s : List α) (b : σ) : Prop :=
  ∀ rest, read a (s ++ rest) = read b rest

/-- What reads one text and then another reads them written behind each other. -/
theorem Reads.append (hs : Reads read a s b) (ht : Reads read b t c) : Reads read a (s ++ t) c := by
  intro rest
  rw [List.append_assoc, hs, ht]

/-- A list of texts that each lead from a state back to it is read from that state to it. -/
theorem Reads.flatMap {ι : Type} (l : List ι) {s : ι → List α} (h : ∀ i ∈ l, Reads read a (s i) a) :
    Reads read a (l.flatMap s) a := by
  induction l with
  | nil => exact fun _ => rfl
  | cons i l ih =>
      rw [List.flatMap_cons]
      exact (h i (by simp)).append (ih fun j hj => h j (by simp [hj]))

/-- The blocks of a generated text, each of which the reader comes back from. -/
theorem Reads.join {ι : Type} {read : σ → List Char → β} (l : List ι) {s : ι → String}
    (h : ∀ i ∈ l, Reads read a (s i).toList a) :
    Reads read a (String.join (l.map s)).toList a := by
  rw [String.toList_join, List.flatMap_map]
  exact Reads.flatMap l h

/-- Characters that the reader skips one by one. -/
theorem Reads.skip (h : ∀ x ∈ s, ∀ rest, read a (x :: rest) = read a rest) : Reads read a s a := by
  induction s with
  | nil => exact fun _ => rfl
  | cons x s ih =>
      intro rest
      rw [List.cons_append, h x (by simp)]
      exact ih (fun y hy => h y (by simp [hy])) rest

end Reads

/-! ## Segments -/

/-- The text `s` starts and ends between tokens and reads as `ts`, whatever follows. -/
def Segment (s : List Char) (ts : List Token) : Prop :=
  ∀ rest, tokens (s ++ rest) = ts ++ tokens rest

/-- No characters make no tokens. -/
theorem Segment.nil : Segment [] [] := fun _ => rfl

/-- The tokens of two segments are those of the first and then those of the second. -/
theorem Segment.append {s₁ s₂ : List Char} {ts₁ ts₂ : List Token} (h₁ : Segment s₁ ts₁)
    (h₂ : Segment s₂ ts₂) : Segment (s₁ ++ s₂) (ts₁ ++ ts₂) := by
  intro rest
  rw [List.append_assoc, h₁, h₂, List.append_assoc]

/-- The tokens of a list of segments are those of its members in order. -/
theorem Segment.flatMap {ι : Type} (l : List ι) {s : ι → List Char} {ts : ι → List Token}
    (h : ∀ i ∈ l, Segment (s i) (ts i)) : Segment (l.flatMap s) (l.flatMap ts) := by
  induction l with
  | nil => exact Segment.nil
  | cons i l ih =>
      rw [List.flatMap_cons, List.flatMap_cons]
      exact (h i (by simp)).append (ih fun j hj => h j (by simp [hj]))

/-- The blocks of a generated text are segments one after the other. -/
theorem Segment.join {ι : Type} (l : List ι) {s : ι → String} {ts : ι → List Token}
    (h : ∀ i ∈ l, Segment (s i).toList (ts i)) :
    Segment (String.join (l.map s)).toList (l.flatMap ts) := by
  rw [String.toList_join, List.flatMap_map]
  exact Segment.flatMap l h

/-- A whole text that is a segment has the tokens of the segment. -/
theorem Segment.tokens_eq {s : List Char} {ts : List Token} (h : Segment s ts) :
    tokens s = ts := by
  have := h []
  simpa [tokens, scan] using this

/-! ## Decimal numbers inside a token -/

/-- A printed number consists of digits. -/
theorem forall_isDigit_repr (n : ℕ) : ∀ c ∈ (Nat.repr n).toList, c.isDigit = true := by
  intro c hc
  rw [Nat.toList_repr] at hc
  exact Nat.isDigit_of_mem_toDigits (by decide) (by decide) hc

/-- A digit differs from every character that is none. -/
theorem ne_of_isDigit {c d : Char} (hc : c.isDigit = true) (hd : d.isDigit = false) :
    c ≠ d := by
  rintro rfl
  rw [hc] at hd
  cases hd

/-- Inside a word the scanner passes over a printed number. -/
theorem scan_word_repr (n : ℕ) (rest : List Char) :
    scan ((Nat.repr n).toList ++ rest) .word =
      ((Nat.repr n).toList ++ (scan rest .word).1, (scan rest .word).2) := by
  have hall := forall_isDigit_repr n
  generalize (Nat.repr n).toList = ds at hall ⊢
  induction ds with
  | nil => rfl
  | cons c cs ih =>
      have hc : isWordChar c = true := by
        simp [isWordChar, Char.isAlphanum, hall c (by simp)]
      simp [scan, hc, ih fun d hd => hall d (by simp [hd])]

/-- A printed number inside a string literal is read as part of it. -/
theorem scan_str_repr (n : ℕ) (rest : List Char) :
    scan ((Nat.repr n).toList ++ rest) .str =
      ((Nat.repr n).toList ++ (scan rest .str).1, (scan rest .str).2) := by
  have hall := forall_isDigit_repr n
  generalize (Nat.repr n).toList = ds at hall ⊢
  induction ds with
  | nil => rfl
  | cons c cs ih =>
      have hc : c ≠ '"' := ne_of_isDigit (hall c (by simp)) (by decide)
      simp [scan, hc, ih fun d hd => hall d (by simp [hd])]

/-- A printed number inside a comment is passed over. -/
theorem scan_comment_repr (n : ℕ) (rest : List Char) :
    (scan ((Nat.repr n).toList ++ rest) .comment).2 = (scan rest .comment).2 := by
  have hskip : Reads (fun mode cs => (scan cs mode).2) .comment (Nat.repr n).toList .comment := by
    apply Reads.skip
    intro c hc cs
    have hline : c ≠ '\n' := ne_of_isDigit (forall_isDigit_repr n c hc) (by decide)
    simp only [scan, hline, if_false]
  exact hskip rest

/-- A printed number followed by a text that does not go on with a digit determines both
the number and the text. -/
theorem repr_append_inj {m n : ℕ} {s t : List Char}
    (hs : ∀ c ∈ s.head?, c.isDigit = false) (ht : ∀ c ∈ t.head?, c.isDigit = false)
    (h : (Nat.repr m).toList ++ s = (Nat.repr n).toList ++ t) : m = n ∧ s = t := by
  have hspan : ∀ (k : ℕ) (r : List Char), (∀ c ∈ r.head?, c.isDigit = false) →
      ((Nat.repr k).toList ++ r).takeWhile Char.isDigit = (Nat.repr k).toList := by
    intro k r hr
    rw [List.takeWhile_append_of_pos (forall_isDigit_repr k)]
    cases r with
    | nil => simp
    | cons c r => simp [hr c (by simp)]
  have hnum : (Nat.repr m).toList = (Nat.repr n).toList := by
    rw [← hspan m s hs, h, hspan n t ht]
  have hmn : m = n := by
    have hread := congrArg (fun ds => Nat.ofDigitChars 10 ds 0) hnum
    simpa [Nat.toList_repr, Nat.ofDigitChars_ten_toDigits] using hread
  subst hmn
  exact ⟨rfl, List.append_cancel_left h⟩

/-- **Numbered names**: a name with a number between two fixed texts determines the number
and the text behind it, when that text does not go on with a digit. -/
theorem numbered_inj {pre s t : String} {m n : ℕ}
    (hs : ∀ c ∈ s.toList.head?, c.isDigit = false) (ht : ∀ c ∈ t.toList.head?, c.isDigit = false) :
    pre ++ (Nat.repr m ++ s) = pre ++ (Nat.repr n ++ t) ↔ m = n ∧ s = t := by
  constructor
  · intro h
    have hlist := congrArg String.toList h
    simp only [String.toList_append] at hlist
    obtain ⟨hmn, hst⟩ := repr_append_inj hs ht (List.append_cancel_left hlist)
    exact ⟨hmn, String.toList_inj.mp hst⟩
  · rintro ⟨rfl, rfl⟩
    rfl

end Lexing
