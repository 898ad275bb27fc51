import Mathlib.Data.List.Infix

/-!
# Buffered writers that swallow failures

A writer that prints to a file through a buffer. Printed characters wait in the buffer until
it is full, or until the writer is flushed or closed. Printing, flushing and closing never
throw: a failure is only recorded (`trouble`), and what was to be written is lost.

As long as no write to the file has failed, everything printed is in the file or waits in
the buffer (`Waits`); behind the first failure the file stays at the characters it has
taken (`Full`). Which of the two holds is all that a print can change (`Printed`), so that
flushing and closing leave `stored` of the printed text (`file_of_printed`), which is the
whole text exactly when the disk keeps it (`stored_eq_iff`).
-/

set_option autoImplicit false

namespace BufferedWriter

variable {α : Type}

/-! ## The file -/

/-- What a file does between being opened and being closed. -/
structure Disk where
  /-- The file can be opened, which empties it. -/
  opens : Bool
  /-- The size of the buffer in front of the file. -/
  bufferSize : ℕ
  /-- The number of characters the file takes before every further write fails; without
  one, no write fails. -/
  accepts : Option ℕ
  /-- The number of characters a failing flush leaves of the file; without one, flushing
  succeeds. -/
  flush : Option ℕ
  /-- The same for closing. -/
  close : Option ℕ

/-- One write to the file: whether it succeeds, and the file afterwards. -/
def Disk.write (disk : Disk) (file block : List α) : Bool × List α :=
  match disk.accepts with
  | none => (true, file ++ block)
  | some k => (decide (file.length + block.length ≤ k), file ++ block.take (k - file.length))

/-- What a flush or close of the file leaves of it. -/
def leftBy (failure : Option ℕ) (file : List α) : List α :=
  match failure with
  | none => file
  | some n => file.take n

/-! ## The writers -/

/-- The characters in the file, those that wait in the buffer, and whether a failure has
been recorded. -/
structure PrintWriter (α : Type) where
  file : List α
  buffer : List α
  trouble : Bool

namespace PrintWriter

/-- The writer on a file that has just been opened. -/
def new : PrintWriter α := ⟨[], [], false⟩

/-- Writing out the buffer. The characters stay in the buffer when the write fails.
The first component is `false` for an exception. -/
def flushBuffer (disk : Disk) (w : PrintWriter α) : Bool × PrintWriter α :=
  if w.buffer = [] then (true, w)
  else
    match disk.write w.file w.buffer with
    | (true, file) => (true, { w with file := file, buffer := [] })
    | (false, file) => (false, { w with file := file })

/-- The next step, unless the one before has thrown. -/
def andThen (r : Bool × PrintWriter α) (next : PrintWriter α → Bool × PrintWriter α) :
    Bool × PrintWriter α :=
  if r.1 then next r.2 else r

/-- Emptying the buffer when it has no room. -/
def flushIfFull (disk : Disk) (w : PrintWriter α) : Bool × PrintWriter α :=
  if w.buffer.length < disk.bufferSize then (true, w) else flushBuffer disk w

/-- Writing a string into the buffer, which is emptied whenever it is full. An exception loses
the rest of the string. -/
def write (disk : Disk) : List α → PrintWriter α → Bool × PrintWriter α
  | [], w => (true, w)
  | c :: s, w =>
      -- the buffer is full here when an earlier write to the file has failed
      andThen (flushIfFull disk w) fun w =>
        andThen (flushIfFull disk { w with buffer := w.buffer ++ [c] }) (write disk s)

/-- Recording whether a call on the writers below has thrown. -/
def record (r : Bool × PrintWriter α) : PrintWriter α :=
  { r.2 with trouble := r.2.trouble || !r.1 }

/-- Printing a string never throws: a failure on the way is only recorded. -/
def print (disk : Disk) (s : List α) (w : PrintWriter α) : PrintWriter α :=
  record (write disk s w)

/-- The buffer first, and then the file. -/
def flush (disk : Disk) (w : PrintWriter α) : PrintWriter α :=
  record (andThen (flushBuffer disk w) fun w =>
    (disk.flush.isNone, { w with file := leftBy disk.flush w.file }))

/-- The file is closed whatever happens to the buffer. -/
def close (disk : Disk) (w : PrintWriter α) : PrintWriter α :=
  let (ok, w) := flushBuffer disk w
  record (ok && disk.close.isNone, { w with file := leftBy disk.close w.file })

end PrintWriter

variable {disk : Disk} {text : List α} {w : PrintWriter α}

/-! ## The invariant of the writers -/

/-- No write of the first `n` characters fails. -/
def Takes (disk : Disk) (n : ℕ) : Prop := ∀ k ∈ disk.accepts, n ≤ k

instance (disk : Disk) (n : ℕ) : Decidable (Takes disk n) :=
  inferInstanceAs (Decidable (∀ k ∈ disk.accepts, n ≤ k))

/-- What has been printed is in the file or waits in the buffer. -/
structure Waits (disk : Disk) (text : List α) (w : PrintWriter α) : Prop where
  text : w.file ++ w.buffer = text
  takes : Takes disk w.file.length

/-- The file takes no more of what has been printed. -/
structure Full (disk : Disk) (text : List α) (w : PrintWriter α) : Prop where
  file : ∃ k ∈ disk.accepts, k < text.length ∧ w.file = text.take k
  buffer : w.buffer ≠ []

/-- The result of a step, and the writer it leaves behind a printed text. -/
def Wrote (disk : Disk) (text : List α) (r : Bool × PrintWriter α) : Prop :=
  (r.1 = true ∧ Waits disk text r.2) ∨ (r.1 = false ∧ Full disk text r.2)

/-- Once the file takes no more, it takes nothing of what is printed later. -/
theorem Full.append (h : Full disk text w) (s : List α) : Full disk (text ++ s) w := by
  obtain ⟨⟨k, hk, hlt, hfile⟩, hbuffer⟩ := h
  refine ⟨⟨k, hk, ?_, ?_⟩, hbuffer⟩
  · rw [List.length_append]
    omega
  · rw [hfile, List.take_append_of_le_length (by omega)]

/-- A file that takes no more has refused a part of the text. -/
theorem Full.not_takes (h : Full disk text w) : ¬ Takes disk text.length := by
  intro htakes
  obtain ⟨k, hk, hlt, -⟩ := h.file
  have hle := htakes k hk
  omega

/-! ## The buffer -/

/-- A write that the file has no room for. -/
theorem Disk.write_fails {file block : List α} {k : ℕ} (hk : k ∈ disk.accepts)
    (hlt : k < file.length + block.length) :
    disk.write file block = (false, file ++ block.take (k - file.length)) := by
  have haccepts : disk.accepts = some k := hk
  have hfails : decide (file.length + block.length ≤ k) = false := decide_eq_false (by omega)
  simp only [Disk.write, haccepts, hfails]

/-- A buffer that waits goes into the file as long as the file takes the whole text. -/
theorem flushBuffer_of_takes (h : Waits disk text w) (htakes : Takes disk text.length) :
    PrintWriter.flushBuffer disk w = (true, { w with file := text, buffer := [] }) := by
  obtain ⟨rfl, -⟩ := h
  by_cases hbuffer : w.buffer = []
  · obtain ⟨file, buffer, trouble⟩ := w
    subst hbuffer
    simp [PrintWriter.flushBuffer]
  · have hwrite : disk.write w.file w.buffer = (true, w.file ++ w.buffer) := by
      unfold Disk.write
      cases haccepts : disk.accepts with
      | none => rfl
      | some k =>
          have hle := htakes k haccepts
          rw [List.length_append] at hle
          simp only [decide_eq_true hle]
          rw [List.take_of_length_le (by omega)]
    simp only [PrintWriter.flushBuffer, if_neg hbuffer, hwrite]

/-- A write that fails leaves the part of the text that the file has taken. -/
theorem flushBuffer_of_not_takes (h : Waits disk text w) (htakes : ¬ Takes disk text.length) :
    ∃ w', PrintWriter.flushBuffer disk w = (false, w') ∧ Full disk text w' := by
  obtain ⟨rfl, hfile⟩ := h
  obtain ⟨k, hk, hlt⟩ : ∃ k ∈ disk.accepts, k < (w.file ++ w.buffer).length := by
    simpa only [Takes, not_forall, not_le, exists_prop] using htakes
  have hle := hfile k hk
  have hbuffer : w.buffer ≠ [] := by
    intro hnil
    rw [hnil, List.append_nil] at hlt
    omega
  rw [List.length_append] at hlt
  have hwrite : disk.write w.file w.buffer = (false, (w.file ++ w.buffer).take k) := by
    rw [Disk.write_fails hk hlt, List.take_append, List.take_of_length_le hle]
  refine ⟨{ w with file := (w.file ++ w.buffer).take k }, ?_, ⟨k, hk, ?_, rfl⟩, hbuffer⟩
  · simp only [PrintWriter.flushBuffer, if_neg hbuffer, hwrite]
  · rw [List.length_append]
    exact hlt

/-- Behind a failure writing out the buffer fails again and changes nothing. -/
theorem flushBuffer_full (h : Full disk text w) :
    PrintWriter.flushBuffer disk w = (false, w) := by
  obtain ⟨⟨k, hk, hlt, hfile⟩, hbuffer⟩ := h
  have hlength : w.file.length = k := by
    rw [hfile, List.length_take]
    omega
  have hpos : 0 < w.buffer.length := List.length_pos_iff.mpr hbuffer
  have hwrite : disk.write w.file w.buffer = (false, w.file) := by
    rw [Disk.write_fails hk (by omega), hlength, Nat.sub_self, List.take_zero, List.append_nil]
  simp only [PrintWriter.flushBuffer, if_neg hbuffer, hwrite]

/-- Writing out the buffer records nothing by itself. -/
theorem flushBuffer_trouble (disk : Disk) (w : PrintWriter α) :
    (PrintWriter.flushBuffer disk w).2.trouble = w.trouble := by
  unfold PrintWriter.flushBuffer
  split
  · rfl
  · split <;> rfl

/-- Writing out a buffer that waits either leaves the text in the file or meets the first failure.
-/
theorem flushBuffer_wrote (h : Waits disk text w) :
    Wrote disk text (PrintWriter.flushBuffer disk w) := by
  by_cases htakes : Takes disk text.length
  · rw [flushBuffer_of_takes h htakes]
    exact .inl ⟨rfl, List.append_nil _, htakes⟩
  · obtain ⟨w', hflush, hfull⟩ := flushBuffer_of_not_takes h htakes
    rw [hflush]
    exact .inr ⟨rfl, hfull⟩

/-- The same where the buffer is written out only when it has no room. -/
theorem flushIfFull_wrote (h : Waits disk text w) :
    Wrote disk text (PrintWriter.flushIfFull disk w) := by
  unfold PrintWriter.flushIfFull
  split
  · exact .inl ⟨rfl, h⟩
  · exact flushBuffer_wrote h

/-- Behind a failure an attempt to make room in the buffer changes nothing. -/
theorem flushIfFull_full (h : Full disk text w) :
    (PrintWriter.flushIfFull disk w).2 = w := by
  unfold PrintWriter.flushIfFull
  split
  · rfl
  · rw [flushBuffer_full h]

/-- Making room in the buffer records nothing by itself. -/
theorem flushIfFull_trouble (disk : Disk) (w : PrintWriter α) :
    (PrintWriter.flushIfFull disk w).2.trouble = w.trouble := by
  unfold PrintWriter.flushIfFull
  split
  · rfl
  · exact flushBuffer_trouble disk w

/-! ## Printing -/

section AndThen

variable {r : Bool × PrintWriter α} {next : PrintWriter α → Bool × PrintWriter α}

/-- A step behind a text that has not met a failure, followed by one that prints `s`. -/
theorem wrote_andThen {s : List α} (h : Wrote disk text r)
    (hnext : ∀ w, Waits disk text w → Wrote disk (text ++ s) (next w)) :
    Wrote disk (text ++ s) (PrintWriter.andThen r next) := by
  unfold PrintWriter.andThen
  obtain ⟨hok, hwaits⟩ | ⟨hok, hfull⟩ := h
  · rw [if_pos hok]
    exact hnext r.2 hwaits
  · rw [if_neg (by rw [hok]; exact Bool.false_ne_true)]
    exact .inr ⟨hok, hfull.append s⟩

/-- The file stays as it is in two steps if it does so in each of them. -/
theorem full_andThen (h : Full disk text r.2)
    (hnext : ∀ w, Full disk text w → Full disk text (next w).2) :
    Full disk text (PrintWriter.andThen r next).2 := by
  unfold PrintWriter.andThen
  split
  · exact hnext r.2 h
  · exact h

/-- Two steps record nothing if neither of them does. -/
theorem trouble_andThen {trouble : Bool} (h : r.2.trouble = trouble)
    (hnext : ∀ w, w.trouble = trouble → (next w).2.trouble = trouble) :
    (PrintWriter.andThen r next).2.trouble = trouble := by
  unfold PrintWriter.andThen
  split
  · exact hnext r.2 h
  · exact h

end AndThen

/-- A string written behind a text that has not met a failure. -/
theorem write_wrote (s : List α) (h : Waits disk text w) :
    Wrote disk (text ++ s) (PrintWriter.write disk s w) := by
  induction s generalizing text w with
  | nil =>
      rw [List.append_nil]
      exact .inl ⟨rfl, h⟩
  | cons c s ih =>
      apply wrote_andThen (flushIfFull_wrote h)
      intro w₁ hwaits
      have hpush : Waits disk (text ++ [c]) { w₁ with buffer := w₁.buffer ++ [c] } := by
        refine ⟨?_, hwaits.takes⟩
        rw [← hwaits.text, List.append_assoc]
      rw [show text ++ c :: s = (text ++ [c]) ++ s by simp]
      apply wrote_andThen (flushIfFull_wrote hpush)
      intro w₂ hwaits'
      exact ih hwaits'

/-- Behind the first failure nothing more reaches the file. -/
theorem write_full (s : List α) (h : Full disk text w) :
    Full disk text (PrintWriter.write disk s w).2 := by
  induction s generalizing w with
  | nil => exact h
  | cons c s ih =>
      apply full_andThen
      · rw [flushIfFull_full h]
        exact h
      · intro w₁ hfull
        have hpush : Full disk text { w₁ with buffer := w₁.buffer ++ [c] } :=
          ⟨hfull.file, List.append_ne_nil_of_right_ne_nil _ (List.cons_ne_nil _ _)⟩
        apply full_andThen
        · rw [flushIfFull_full hpush]
          exact hpush
        · intro w₂ hfull'
          exact ih hfull'

/-- Writing a string records nothing by itself; `print` does. -/
theorem write_trouble (disk : Disk) (s : List α) (w : PrintWriter α) :
    (PrintWriter.write disk s w).2.trouble = w.trouble := by
  induction s generalizing w with
  | nil => rfl
  | cons c s ih =>
      apply trouble_andThen (flushIfFull_trouble disk w)
      intro w₁ htrouble
      apply trouble_andThen
      · rw [flushIfFull_trouble]
        exact htrouble
      · intro w₂ htrouble'
        rw [ih, htrouble']

/-- The writer behind a printed text, between two calls. -/
def Printed (disk : Disk) (text : List α) (w : PrintWriter α) : Prop :=
  Wrote disk text (!w.trouble, w)

/-- Nothing has been printed on a file that has just been opened. -/
theorem printed_new (disk : Disk) : Printed disk ([] : List α) PrintWriter.new :=
  .inl ⟨rfl, rfl, fun k _ => Nat.zero_le k⟩

/-- **One call of `print`** appends its string to the printed text. -/
theorem print_printed (s : List α) (h : Printed disk text w) :
    Printed disk (text ++ s) (PrintWriter.print disk s w) := by
  have htrouble := write_trouble disk s w
  unfold Printed PrintWriter.print PrintWriter.record
  rw [htrouble]
  obtain ⟨hok, hwaits⟩ | ⟨hok, hfull⟩ := h
  · have hclear : w.trouble = false := by simpa using hok
    obtain ⟨hwrote, hwaits⟩ | ⟨hwrote, hfull⟩ := write_wrote s hwaits
    · exact .inl ⟨by rw [hclear, hwrote]; rfl, hwaits.text, hwaits.takes⟩
    · exact .inr ⟨by rw [hwrote, Bool.not_false, Bool.or_true]; rfl, hfull.file, hfull.buffer⟩
  · have hset : w.trouble = true := by simpa using hok
    have hfull := (write_full s hfull).append s
    exact .inr ⟨by rw [hset]; rfl, hfull.file, hfull.buffer⟩

/-! ## Flushing and closing -/

/-- What a file holds when `text` has been printed to it and it has been closed. -/
def stored (disk : Disk) (text : List α) : List α :=
  leftBy disk.close
    (if Takes disk text.length then leftBy disk.flush text
    else text.take (disk.accepts.getD 0))

/-- Flushing a text that the file takes leaves what the flush of the file leaves of it. -/
theorem flush_of_takes (h : Printed disk text w) (htakes : Takes disk text.length) :
    PrintWriter.flush disk w = ⟨leftBy disk.flush text, [], !disk.flush.isNone⟩ := by
  obtain ⟨hok, hwaits⟩ | ⟨-, hfull⟩ := h
  · have hclear : w.trouble = false := by simpa using hok
    simp only [PrintWriter.flush, flushBuffer_of_takes hwaits htakes, PrintWriter.andThen,
      if_true, PrintWriter.record, hclear, Bool.false_or]
  · exact absurd htakes hfull.not_takes

/-- Flushing a text that the file does not take records a failure, and the rest is lost. -/
theorem flush_of_not_takes (h : Printed disk text w) (htakes : ¬ Takes disk text.length) :
    Full disk text (PrintWriter.flush disk w) ∧ (PrintWriter.flush disk w).trouble = true := by
  obtain ⟨w', hflush, hfull⟩ :
      ∃ w', PrintWriter.flushBuffer disk w = (false, w') ∧ Full disk text w' := by
    obtain ⟨-, hwaits⟩ | ⟨-, hfull⟩ := h
    · exact flushBuffer_of_not_takes hwaits htakes
    · exact ⟨w, flushBuffer_full hfull, hfull⟩
  simp only [PrintWriter.flush, hflush, PrintWriter.andThen, Bool.false_eq_true, if_false,
    PrintWriter.record, Bool.not_false, Bool.or_true, and_true]
  exact ⟨hfull.file, hfull.buffer⟩

/-- **Flushing and closing** leave the printed text as far as the disk has stored it. -/
theorem file_of_printed (h : Printed disk text w) :
    (PrintWriter.close disk (PrintWriter.flush disk w)).file = stored disk text := by
  unfold stored
  by_cases htakes : Takes disk text.length
  · rw [flush_of_takes h htakes, if_pos htakes]
    rfl
  · obtain ⟨hfull, -⟩ := flush_of_not_takes h htakes
    rw [if_neg htakes, PrintWriter.close, flushBuffer_full hfull]
    obtain ⟨k, hk, -, hfile⟩ := hfull.file
    have haccepts : disk.accepts = some k := hk
    rw [haccepts, Option.getD_some, ← hfile]
    rfl

/-- With a buffer of two, a disk that takes three leaves three of six. -/
example : let disk : Disk := ⟨true, 2, some 3, none, none⟩
    (PrintWriter.close disk (PrintWriter.flush disk
      (PrintWriter.print disk [1, 2, 3, 4, 5, 6] PrintWriter.new))).file = [1, 2, 3] := by
  decide

/-- The first `n` characters of a file survive: the file takes them, and a flush or close
that fails leaves them. -/
def Keeps (disk : Disk) (n : ℕ) : Prop :=
  (∀ k ∈ disk.accepts, n ≤ k) ∧ (∀ k ∈ disk.flush, n ≤ k) ∧ ∀ k ∈ disk.close, n ≤ k

/-- What a flush or close leaves is the beginning of the file. -/
theorem isPrefix_leftBy (failure : Option ℕ) (file : List α) : leftBy failure file <+: file := by
  cases failure with
  | none => exact List.prefix_refl file
  | some n => exact List.take_prefix n file

/-- A flush or close leaves the whole file exactly when its failure, if any, comes late enough. -/
theorem leftBy_eq_iff (failure : Option ℕ) (file : List α) :
    leftBy failure file = file ↔ ∀ n ∈ failure, file.length ≤ n := by
  cases failure with
  | none => simp [leftBy]
  | some n => simp [leftBy]

/-- A whole text is stored exactly when all its characters survive. -/
theorem stored_eq_iff (disk : Disk) (text : List α) :
    stored disk text = text ↔ Keeps disk text.length := by
  unfold stored Keeps
  -- nothing is longer than what it is left of, so each part on the way is the whole text
  have hpart : ∀ file, file <+: text → leftBy disk.close file = text → file = text := by
    intro file hfile h
    have hlength := (isPrefix_leftBy disk.close file).length_le
    rw [h] at hlength
    exact hfile.eq_of_length_le hlength
  by_cases htakes : Takes disk text.length
  · rw [if_pos htakes]
    constructor
    · intro h
      have hflush := hpart _ (isPrefix_leftBy _ _) h
      rw [hflush] at h
      exact ⟨htakes, (leftBy_eq_iff _ _).mp hflush, (leftBy_eq_iff _ _).mp h⟩
    · rintro ⟨-, hflush, hclose⟩
      rw [(leftBy_eq_iff _ _).mpr hflush]
      exact (leftBy_eq_iff _ _).mpr hclose
  · rw [if_neg htakes]
    constructor
    · intro h
      have htake := hpart _ (List.take_prefix _ _) h
      refine absurd (fun k hk => ?_) htakes
      have haccepts : disk.accepts = some k := hk
      rw [haccepts, Option.getD_some, List.take_eq_self_iff] at htake
      exact htake
    · rintro ⟨htakes', -⟩
      exact absurd htakes' htakes

/-- A writer that has recorded no failure has stored the whole text: asking it would
tell. -/
theorem stored_of_not_trouble (h : Printed disk text w)
    (hclear : (PrintWriter.close disk (PrintWriter.flush disk w)).trouble = false) :
    stored disk text = text := by
  by_cases htakes : Takes disk text.length
  · rw [flush_of_takes h htakes] at hclear
    have hnone : disk.flush = none ∧ disk.close = none := by
      simpa [PrintWriter.close, PrintWriter.flushBuffer, PrintWriter.record] using hclear
    rw [stored, if_pos htakes, hnone.1, hnone.2]
    rfl
  · obtain ⟨hfull, htrouble⟩ := flush_of_not_takes h htakes
    have hset : (PrintWriter.close disk (PrintWriter.flush disk w)).trouble = true := by
      rw [PrintWriter.close, flushBuffer_full hfull]
      exact Bool.or_true _
    rw [hset] at hclear
    cases hclear

end BufferedWriter
