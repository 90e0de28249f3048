import Mathlib.Data.List.Basic
import NetNodeGateway.Common.Logger

/-!
# The log line format

The format of a log line is pinned for operators' tools:
`YYYY-MM-DDTHH:MM:SS.mmmZ [<SEVERITY:5>] [<CATEGORY:10>] <EVENT_NAME:20>detail` and a newline.
`parseLogLine` reads a line of that format back into its fields.  Every line `log` writes reads
back as the clock reading, severity, category, event name (cut or padded to twenty characters)
and detail it was written from (`parseLogLine_logLine`), provided the first twenty characters
of the name hold no NUL, where `<<` would stop.

The proof reads the line piece by piece: digits (`readDecimal_decimal`), separators
(`expectText_append`), severity and category (`readSeverity_append`, `readCategory_append`),
and the event field (`eventField_eq`).
-/

namespace NetNodeGateway

/-! ### Reading a line back -/

/-- The clock fields of a log line. -/
structure Stamp where
  year : Nat
  month : Nat
  day : Nat
  hour : Nat
  minute : Nat
  second : Nat
  millis : Nat
  deriving DecidableEq, Repr

/-- The clock fields a reading prints. -/
def UtcTime.stamp (t : UtcTime) : Stamp :=
  ⟨t.year, t.month, t.day, t.hour, t.minute, t.second, t.millis⟩

/-- The fields of a log line. -/
structure LogFields where
  stamp : Stamp
  sev : Severity
  cat : EventCategory
  eventName : List Char
  detail : List Char
  deriving DecidableEq, Repr

/-- The text `t` at the front of `s`, and what follows it. -/
def expectText (t s : List Char) : Option (List Char) :=
  if t.isPrefixOf s then some (s.drop t.length) else none

/-- `w` decimal digits at the front of `s`, their value, and what follows them. -/
def readDecimal (w : Nat) (s : List Char) : Option (Nat × List Char) :=
  if (s.take w).length = w ∧ (s.take w).all Char.isDigit then
    some ((s.take w).foldl (fun n c => 10 * n + (c.toNat - 48)) 0, s.drop w)
  else none

/-- The severities, in order. -/
def severities : List Severity := [.debug, .info, .warn, .alarm, .error, .fatal]

/-- The categories, in order. -/
def categories : List EventCategory :=
  [.tracking, .threat, .iff, .engagement, .network, .health, .control]

/-- A five-character severity at the front of `s`. -/
def readSeverity (s : List Char) : Option (Severity × List Char) :=
  (severities.find? (severityStr · = s.take 5)).map (·, s.drop 5)

/-- A ten-character category at the front of `s`. -/
def readCategory (s : List Char) : Option (EventCategory × List Char) :=
  (categories.find? (categoryStr · = s.take 10)).map (·, s.drop 10)

/-- `w` digits after the separator `sep`. -/
def readField (sep : Char) (w : Nat) (s : List Char) : Option (Nat × List Char) :=
  (expectText [sep] s).bind (readDecimal w)

/-- The clock reading at the front of a line, up to its `Z`, and what follows. -/
def readStamp (line : List Char) : Option (Stamp × List Char) := do
  let year ← readDecimal 4 line
  let month ← readField '-' 2 year.2
  let day ← readField '-' 2 month.2
  let hour ← readField 'T' 2 day.2
  let minute ← readField ':' 2 hour.2
  let second ← readField ':' 2 minute.2
  let millis ← readField '.' 3 second.2
  let s ← expectText ['Z'] millis.2
  return (⟨year.1, month.1, day.1, hour.1, minute.1, second.1, millis.1⟩, s)

/-- The bracketed severity and category after the clock reading, and what follows. -/
def readTags (s : List Char) : Option ((Severity × EventCategory) × List Char) := do
  let s ← expectText " [".toList s
  let sev ← readSeverity s
  let s ← expectText "] ".toList sev.2
  let s ← expectText "[".toList s
  let cat ← readCategory s
  let s ← expectText "] ".toList cat.2
  return ((sev.1, cat.1), s)

/-- **The pinned format**, read back: the fields of a line, if it has the format. -/
def parseLogLine (line : List Char) : Option LogFields := do
  let stamp ← readStamp line
  let tags ← readTags stamp.2
  let s := tags.2
  if 21 ≤ s.length ∧ s.getLast? = some '\n' then
    some ⟨stamp.1, tags.1.1, tags.1.2, s.take 20, (s.drop 20).dropLast⟩
  else none

/-! ### The pieces of a line -/

theorem expectText_append (t rest : List Char) : expectText t (t ++ rest) = some rest := by
  rw [expectText, if_pos (List.isPrefixOf_iff_prefix.mpr (List.prefix_append t rest)),
    List.drop_left]

theorem expectText_cons (c : Char) (rest : List Char) : expectText [c] (c :: rest) = some rest := by
  rw [← List.singleton_append]
  exact expectText_append [c] rest

theorem toNat_digitChar {d : Nat} (h : d < 10) : (digitChar d).toNat = 48 + d := by
  rw [digitChar, Char.ofNat, dif_pos (by unfold Nat.isValidChar; omega)]
  simp [Char.ofNatAux, Char.toNat, UInt32.toNat, BitVec.toNat_ofNatLt]

theorem isDigit_iff (c : Char) : c.isDigit ↔ 48 ≤ c.toNat ∧ c.toNat ≤ 57 := by
  unfold Char.isDigit
  simp only [Bool.and_eq_true, decide_eq_true_eq]
  rfl

@[simp] theorem length_decimal (w n : Nat) : (decimal w n).length = w := by
  induction w generalizing n with
  | zero => rfl
  | succ w ih => simp [decimal, ih]

theorem all_isDigit_decimal (w n : Nat) : (decimal w n).all Char.isDigit := by
  induction w generalizing n with
  | zero => rfl
  | succ w ih =>
    have hd := toNat_digitChar (Nat.mod_lt n (by decide : 10 > 0))
    simp only [decimal, List.all_append, ih, Bool.true_and, List.all_cons, List.all_nil,
      Bool.and_true]
    exact (isDigit_iff _).mpr (by omega)

/-- The digits of `n` read back as `n` modulo `10 ^ w`. -/
theorem foldl_decimal (w n : Nat) :
    (decimal w n).foldl (fun n c => 10 * n + (c.toNat - 48)) 0 = n % 10 ^ w := by
  induction w generalizing n with
  | zero => simp [decimal, Nat.mod_one]
  | succ w ih =>
    rw [decimal, List.foldl_append, ih, List.foldl_cons, List.foldl_nil,
      toNat_digitChar (Nat.mod_lt n (by decide)), Nat.pow_succ, Nat.mul_comm _ 10, Nat.mod_mul]
    omega

theorem readDecimal_decimal (w n : Nat) (rest : List Char) :
    readDecimal w (decimal w n ++ rest) = some (n % 10 ^ w, rest) := by
  rw [readDecimal, List.take_left' (length_decimal w n),
    if_pos ⟨length_decimal w n, all_isDigit_decimal w n⟩, foldl_decimal,
    List.drop_left' (length_decimal w n)]

theorem readSeverity_append (v : Severity) (rest : List Char) :
    readSeverity (severityStr v ++ rest) = some (v, rest) := by
  cases v <;> rfl

theorem readCategory_append (v : EventCategory) (rest : List Char) :
    readCategory (categoryStr v ++ rest) = some (v, rest) := by
  cases v <;> rfl

/-- Without a NUL in the name's first twenty characters, the event field is those characters
padded with spaces. -/
theorem eventField_eq {eventName : List Char} (h : '\x00' ∉ eventName.take 20) :
    eventField eventName =
      eventName.take 20 ++ List.replicate (20 - (eventName.take 20).length) ' ' := by
  rw [eventField, List.takeWhile_eq_self_iff]
  intro x hx
  rcases List.mem_append.mp hx with hx | hx
  · exact decide_eq_true fun heq => h (heq ▸ hx)
  · rw [List.eq_of_mem_replicate hx]
    decide

theorem length_eventField {eventName : List Char} (h : '\x00' ∉ eventName.take 20) :
    (eventField eventName).length = 20 := by
  rw [eventField_eq h, List.length_append, List.length_replicate]
  have : (eventName.take 20).length ≤ 20 := List.length_take_le _ _
  omega

/-! ### The line read back -/

theorem readField_decimal (sep : Char) (w n : Nat) (rest : List Char) :
    readField sep w (sep :: (decimal w n ++ rest)) = some (n % 10 ^ w, rest) := by
  rw [readField, expectText_cons, Option.some_bind, readDecimal_decimal]

/-- The clock reading prints its own fields: each is below the power of ten of its width. -/
theorem readStamp_iso (t : UtcTime) (rest : List Char) :
    readStamp (t.iso ++ rest) = some (t.stamp, rest) := by
  have hiso : t.iso ++ rest = decimal 4 t.year ++ ('-' :: (decimal 2 t.month ++ ('-' ::
      (decimal 2 t.day ++ ('T' :: (decimal 2 t.hour ++ (':' :: (decimal 2 t.minute ++ (':' ::
        (decimal 2 t.second ++ ('.' :: (decimal 3 t.millis ++ ('Z' :: rest))))))))))))) := by
    simp only [UtcTime.iso, List.append_assoc, List.cons_append, List.singleton_append,
      List.nil_append]
  have h2 {n : Nat} (h : n < 100) : n % 10 ^ 2 = n := Nat.mod_eq_of_lt h
  have hm := h2 (n := t.month) (by have := t.month_range; omega)
  have hd := h2 (n := t.day) (by have := t.day_range; omega)
  have hh := h2 (n := t.hour) (by have := t.hour_lt; omega)
  have hmi := h2 (n := t.minute) (by have := t.minute_lt; omega)
  have hs := h2 (n := t.second) (by have := t.second_le; omega)
  have hy : t.year % 10 ^ 4 = t.year := Nat.mod_eq_of_lt t.year_range.2
  have hms : t.millis % 10 ^ 3 = t.millis := Nat.mod_eq_of_lt t.millis_lt
  simp only [hiso, readStamp, readDecimal_decimal, readField_decimal, expectText_cons,
    Option.bind_eq_bind, Option.some_bind, hy, hm, hd, hh, hmi, hs, hms]
  rfl

theorem readTags_append (sev : Severity) (cat : EventCategory) (rest : List Char) :
    readTags (" [".toList ++ (severityStr sev ++ ("] ".toList ++ ("[".toList ++
      (categoryStr cat ++ ("] ".toList ++ rest)))))) = some ((sev, cat), rest) := by
  simp only [readTags, expectText_append, readSeverity_append, readCategory_append,
    Option.bind_eq_bind, Option.some_bind]
  rfl

/-- **Every line `log` writes reads back** as the clock reading, severity, category, event
field and detail it was written from. -/
theorem parseLogLine_logLine (now : UtcTime) (sev : Severity) (cat : EventCategory)
    {eventName : List Char} (detail : List Char) (h : '\x00' ∉ eventName.take 20) :
    parseLogLine (logLine now sev cat eventName detail) =
      some ⟨now.stamp, sev, cat, eventField eventName, detail⟩ := by
  have hlen := length_eventField h
  have hline : logLine now sev cat eventName detail =
      now.iso ++ (" [".toList ++ (severityStr sev ++ ("] ".toList ++ ("[".toList ++
        (categoryStr cat ++ ("] ".toList ++ (eventField eventName ++ (detail ++ ['\n'])))))))) := by
    simp only [logLine, List.append_assoc]
  have hlast : (eventField eventName ++ (detail ++ ['\n'])).getLast? = some '\n' := by
    rw [← List.append_assoc, List.getLast?_concat]
  rw [hline, parseLogLine]
  simp only [readStamp_iso, readTags_append, Option.bind_eq_bind, Option.some_bind]
  rw [if_pos ⟨by simp only [List.length_append, hlen, List.length_singleton]; omega, hlast⟩, List.take_left' hlen, List.drop_left' hlen,
    List.dropLast_concat]

/-- A clock reading: 2024-01-02T03:04:05.006Z. -/
def sampleTime : UtcTime :=
  ⟨2024, 1, 2, 3, 4, 5, 6, by decide, by decide, by decide, by decide, by decide, by decide,
    by decide⟩

theorem parseLogLine_logLine_seqGap :
    '\x00' ∉ ("SEQ_GAP".toList).take 20 ∧
      parseLogLine (logLine sampleTime .warn .network "SEQ_GAP".toList "x".toList) =
        some ⟨⟨2024, 1, 2, 3, 4, 5, 6⟩, .warn, .network, "SEQ_GAP             ".toList,
          "x".toList⟩ :=
  ⟨by decide, parseLogLine_logLine sampleTime .warn .network "x".toList (by decide)⟩

end NetNodeGateway
