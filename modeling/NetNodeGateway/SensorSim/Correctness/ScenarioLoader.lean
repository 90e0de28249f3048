import NetNodeGateway.SensorSim.ScenarioLoader

/-!
# What the scenario loader reads from a scenario file

A scenario file laid out as the loader's tests write one (`ScenarioText.render`) has an opening
brace, one `"key": value,` line for the name and for each number, the `allowed_types` array on
one line, and a closing brace.  Loading it (`loadScenarioFromString_render`) gives what the
file says (`ScenarioText.expected`): each number is `std::stod` of the text written for it,
the classes are those named in the array, and the errors are those of the first number or
class name that does not read, then those of a missing name or an empty array.  This holds
for every name and number text that keep to their line and every class name that keeps to its
array item.

The proof goes line by line: one equation per branch of the loop (`loadLines_skip`,
`loadLines_name`, `loadLines_number`, `loadLines_allowedTypes`), the reading of a key line
(`keyValue_fieldLine`), and the readers on the values written (`extractString_quote_append`,
`extractNumber_value`, `extractStringArray_quotedList`).
-/

namespace NetNodeGateway

/-- The key text of a number key. -/
def NumberKey.text : NumberKey → List Char
  | .minObjects => "min_objects".toList
  | .maxObjects => "max_objects".toList
  | .spawnRateHz => "spawn_rate_hz".toList
  | .minRangeM => "min_range_m".toList
  | .maxRangeM => "max_range_m".toList
  | .minSpeedMps => "min_speed_mps".toList
  | .maxSpeedMps => "max_speed_mps".toList
  | .hostileProbability => "hostile_probability".toList

/-- The number keys in the order of `ScenarioProfile`. -/
def NumberKey.all : List NumberKey :=
  [.minObjects, .maxObjects, .spawnRateHz, .minRangeM, .maxRangeM, .minSpeedMps, .maxSpeedMps,
    .hostileProbability]

/-! ### The file layout -/

/-- `s` in double quotes. -/
def quote (s : List Char) : List Char := '"' :: s ++ ['"']

/-- The line `  "key": value`. -/
def fieldLine (key value : List Char) : List Char :=
  "  ".toList ++ (quote key ++ ':' :: ' ' :: value)

/-- The items of a one-line array: each name quoted, separated by `", "`. -/
def quotedList : List (List Char) → List Char
  | [] => []
  | n :: ns => quote n ++ ns.flatMap fun m => ',' :: ' ' :: quote m

/-- A scenario file: the name, the text written for each number, and the class names of
`allowed_types`. -/
structure ScenarioText where
  name : List Char
  numbers : NumberKey → List Char
  allowedTypes : List (List Char)

namespace ScenarioText

/-- The lines of the file. -/
def lines (t : ScenarioText) : List (List Char) :=
  ['{'] :: fieldLine "name".toList (quote t.name ++ [',']) ::
    (NumberKey.all.map (fun k => fieldLine k.text (t.numbers k ++ [','])) ++
      [fieldLine "allowed_types".toList ('[' :: quotedList t.allowedTypes ++ [']']), ['}']])

/-- The file: its lines, each ended by a newline. -/
def render (t : ScenarioText) : List Char := t.lines.flatMap (· ++ ['\n'])

/-- Every field keeps to its line, and every class name to its array item. -/
def WellFormed (t : ScenarioText) : Prop :=
  '\n' ∉ t.name ∧ (∀ k ∈ NumberKey.all, '\n' ∉ t.numbers k) ∧
    ∀ n ∈ t.allowedTypes, '\n' ∉ n ∧ ',' ∉ n ∧ ']' ∉ n

instance : DecidablePred WellFormed := fun _ => inferInstanceAs (Decidable (_ ∧ _ ∧ _))

variable {D : Type} (ops : DoubleOps D)

/-- Reading the number written for key `k` into the profile. -/
def numberStep (t : ScenarioText) (p : ScenarioProfile D) (k : NumberKey) :
    Except String (ScenarioProfile D) := do
  let x ← ScenarioLoader.readNumber ops (ScenarioLoader.trim (t.numbers k))
  return p.setNumber ops k x

/-- **What the file says**: the numbers read in turn with `std::stod`, the classes named, then
the checks of a missing name and an empty array. -/
def expected (t : ScenarioText) : Except String (ScenarioProfile D) := do
  let p ← NumberKey.all.foldlM (numberStep ops t) { ScenarioProfile.init ops with name := t.name }
  let types ← t.allowedTypes.mapM ScenarioLoader.stringToTrackClass
  ScenarioLoader.finish { p with allowedTypes := types }

end ScenarioText

namespace ScenarioLoader

variable {D : Type} (ops : DoubleOps D)

/-! ### The branches of the loop -/

theorem loadLines_nil (p : ScenarioProfile D) : loadLines ops p [] = finish p := by
  rw [loadLines]

theorem loadLines_skip {line : List Char} (h : keyValue (trim line) = .ok none)
    (p : ScenarioProfile D) (lines : List (List Char)) :
    loadLines ops p (line :: lines) = loadLines ops p lines := by
  rw [loadLines, h]
  rfl

theorem loadLines_name {line key v : List Char} (h : keyValue (trim line) = .ok (some (key, v)))
    (hk : scenarioKey? key = some .name) (p : ScenarioProfile D) (lines : List (List Char)) :
    loadLines ops p (line :: lines) =
      extractString v >>= fun name => loadLines ops { p with name := name } lines := by
  rw [loadLines, h]
  simp only [bind, Except.bind, hk]

theorem loadLines_number {line key v : List Char} (h : keyValue (trim line) = .ok (some (key, v)))
    {k : NumberKey} (hk : scenarioKey? key = some (.number k)) (p : ScenarioProfile D)
    (lines : List (List Char)) :
    loadLines ops p (line :: lines) =
      extractNumber ops v >>= fun x => loadLines ops (p.setNumber ops k x) lines := by
  rw [loadLines, h]
  simp only [bind, Except.bind, hk]

theorem loadLines_allowedTypes {line key v : List Char}
    (h : keyValue (trim line) = .ok (some (key, v))) (hk : scenarioKey? key = some .allowedTypes)
    (p : ScenarioProfile D) (lines : List (List Char)) :
    loadLines ops p (line :: lines) =
      extractStringArray (accumulateArray v lines).1 >>= fun typeStrs =>
        typeStrs.mapM stringToTrackClass >>= fun types =>
          loadLines ops { p with allowedTypes := p.allowedTypes ++ types }
            (accumulateArray v lines).2 := by
  rw [loadLines, h]
  simp only [bind, Except.bind, hk]

/-! ### Reading the lines written -/

@[simp] theorem isTrimmed_quote : isTrimmed '"' = false := rfl

/-- A quoted string followed by text without quotes reads as the string. -/
theorem extractString_quote_append (s : List Char) {w : List Char} (hw : '"' ∉ w) :
    extractString (quote s ++ w) = .ok s := by
  have hlast : quote s ++ w = ('"' :: s) ++ '"' :: w := by simp [quote]
  rw [extractString, hlast, rfind_append_cons hw, List.cons_append, List.indexOf?_cons]
  simp

theorem extractString_quote (s : List Char) : extractString (quote s) = .ok s := by
  simpa using extractString_quote_append s (List.not_mem_nil _)

/-- A key line, its value ending with a character outside the trim's set, reads as its key
and its value less its left padding. -/
theorem keyValue_fieldLine {key : List Char} (hk : ':' ∉ key) (v : List Char) {c : Char}
    (hc : isTrimmed c = false) :
    keyValue (trim (fieldLine key (v ++ [c]))) =
      .ok (some (key, v.dropWhile isTrimmed ++ [c])) := by
  have hline : trim (fieldLine key (v ++ [c])) = quote key ++ ':' :: ' ' :: (v ++ [c]) := by
    rw [trim, fieldLine, trimWith_append_left (by decide : ∀ x ∈ "  ".toList, isTrimmed x)]
    have : quote key ++ ':' :: ' ' :: (v ++ [c]) = (quote key ++ ':' :: ' ' :: v) ++ [c] := by simp
    rw [this, trimWith_append_singleton _ hc, quote, List.cons_append, List.cons_append,
      List.dropWhile_cons_of_neg (by decide)]
  have hcolon : ':' ∉ quote key := by simp [quote, hk]
  rw [hline, keyValue, if_neg (by simp [quote]), indexOf?_append_cons hcolon]
  dsimp only
  rw [List.take_left, extractString_quote]
  have hdrop : (quote key ++ ':' :: ' ' :: (v ++ [c])).drop ((quote key).length + 1) =
      [' '] ++ (v ++ [c]) := by simp
  simp only [bind, Except.bind, pure, Except.pure, hdrop, trim,
    trimWith_append_left (by decide : ∀ x ∈ [' '], isTrimmed x), trimWith_append_singleton _ hc]

/-- A number written before a comma reads as `std::stod` of its trimmed text. -/
theorem extractNumber_value (s : List Char) :
    extractNumber ops (s.dropWhile isTrimmed ++ [',']) = readNumber ops (trim s) := by
  rw [extractNumber]
  simp only [trim, trimWith_append_singleton _ (show isTrimmed ',' = false from rfl),
    List.dropWhile_idempotent, List.getLast?_append, List.getLast?_singleton, Option.or_some,
    if_true, List.dropLast_concat, trimWith_dropWhile]

/-- A character that is neither a quote, a comma nor a space is in the array text only if it
is in a name. -/
theorem not_mem_quotedList {c : Char} (hc : c ≠ '"' ∧ c ≠ ',' ∧ c ≠ ' ') {ns : List (List Char)}
    (hn : ∀ n ∈ ns, c ∉ n) : c ∉ quotedList ns := by
  cases ns with
  | nil => exact List.not_mem_nil _
  | cons n ns =>
    intro hmem
    simp only [quotedList, quote, List.mem_append, List.mem_cons, List.mem_flatMap,
      List.not_mem_nil, or_false] at hmem
    rcases hmem with ((h | h) | h) | ⟨m, hm, h | h | (h | h) | h⟩
    all_goals first
      | exact hc.1 h
      | exact hc.2.1 h
      | exact hc.2.2 h
      | exact hn _ (List.mem_cons_self _ _) h
      | exact hn _ (List.mem_cons_of_mem _ hm) h

theorem getlinesFrom_quotedList {n : List Char} {ns : List (List Char)}
    (h : ∀ m ∈ n :: ns, ',' ∉ m) (acc : List Char) :
    getlinesFrom ',' acc (quote n ++ ns.flatMap fun m => ',' :: ' ' :: quote m) =
      (acc ++ quote n) :: ns.map fun m => ' ' :: quote m := by
  induction ns generalizing n acc with
  | nil =>
    rw [List.flatMap_nil, List.append_nil,
      getlinesFrom_of_not_mem (by simpa [quote] using h n (List.mem_cons_self _ _))]
    simp [quote]
  | cons m ns ih =>
    rw [List.flatMap_cons, List.cons_append,
      getlinesFrom_append_cons (by simpa [quote] using h n (List.mem_cons_self _ _)), getlines,
      List.cons_append, getlinesFrom, if_neg (by decide), List.nil_append,
      ih (fun m' hm' => h m' (List.mem_cons_of_mem _ hm'))]
    rfl

@[simp] theorem dropWhile_quote (s : List Char) : (quote s).dropWhile isTrimmed = quote s := by
  rw [quote, List.cons_append, List.dropWhile_cons_of_neg (by decide)]

theorem getLast?_quote (s : List Char) : (quote s).getLast? = some '"' := List.getLast?_concat _

theorem trim_quote (s : List Char) : trim (quote s) = quote s :=
  trimWith_eq_self (fun x hx => by cases hx; rfl)
    (fun x hx => by rw [getLast?_quote] at hx; cases hx; rfl)

theorem quotedItem_quote (s : List Char) : quotedItem (quote s) = some s := by
  rw [quotedItem, if_pos ⟨by simp [quote], rfl, getLast?_quote s⟩]
  simp [quote]

/-- A one-line array of names, none holding a comma or `]`, reads as the names. -/
theorem extractStringArray_quotedList {ns : List (List Char)} (h : ∀ n ∈ ns, ',' ∉ n ∧ ']' ∉ n) :
    extractStringArray ('[' :: quotedList ns ++ [']']) = .ok ns := by
  have hclose : ']' ∉ '[' :: quotedList ns :=
    List.not_mem_cons_of_ne_of_not_mem (by decide)
      (not_mem_quotedList (by decide) fun n hn => (h n hn).2)
  rw [extractStringArray, indexOf?_append_cons hclose, List.cons_append, List.indexOf?_cons]
  simp only [beq_self_eq_true, if_true, List.length_cons, Nat.zero_lt_succ, Nat.sub_zero,
    Nat.add_sub_cancel, List.drop_succ_cons, List.drop_zero, List.take_left]
  congr 1
  cases ns with
  | nil => rfl
  | cons n ns =>
    have hitem (m : List Char) : quotedItem (trim (' ' :: quote m)) = some m := by
      rw [trim, ← List.singleton_append,
        trimWith_append_left (by decide : ∀ x ∈ [' '], isTrimmed x), ← trim, trim_quote,
        quotedItem_quote]
    rw [quotedList, getlines, getlinesFrom_quotedList (fun m hm => (h m hm).1), List.nil_append,
      List.filterMap_cons_some (by rw [trim_quote, quotedItem_quote]), List.filterMap_map]
    exact congrArg _ ((List.filterMap_congr fun m _ => hitem m).trans (List.filterMap_some ns))

theorem accumulateArray_of_mem {arrayStr : List Char} (h : ']' ∈ arrayStr)
    (lines : List (List Char)) : accumulateArray arrayStr lines = (arrayStr, lines) := by
  unfold accumulateArray
  rw [if_pos h]

theorem comma_not_trimmed : isTrimmed ',' = false := rfl

theorem colon_not_mem_text (k : NumberKey) : ':' ∉ k.text := by
  cases k <;> decide

theorem scenarioKey?_text (k : NumberKey) : scenarioKey? k.text = some (.number k) := by
  cases k <;> rfl

/-- The number lines read as the numbers, in turn. -/
theorem loadLines_numberLines (t : ScenarioText) (ks : List NumberKey) (p : ScenarioProfile D)
    (rest : List (List Char)) :
    loadLines ops p (ks.map (fun k => fieldLine k.text (t.numbers k ++ [','])) ++ rest) =
      ks.foldlM (t.numberStep ops) p >>= fun p' => loadLines ops p' rest := by
  induction ks generalizing p with
  | nil => rfl
  | cons k ks ih =>
    rw [List.map_cons, List.cons_append,
      loadLines_number ops (keyValue_fieldLine (colon_not_mem_text k) _ comma_not_trimmed)
        (scenarioKey?_text k),
      extractNumber_value, List.foldlM_cons, ScenarioText.numberStep]
    cases readNumber ops (trim (t.numbers k)) with
    | error e => rfl
    | ok x => exact ih _

theorem allowedTypes_setNumber (p : ScenarioProfile D) (k : NumberKey) (x : D) :
    (p.setNumber ops k x).allowedTypes = p.allowedTypes := by
  cases k <;> rfl

theorem allowedTypes_foldlM_numberStep (t : ScenarioText) (ks : List NumberKey) :
    ∀ (p p' : ScenarioProfile D), ks.foldlM (t.numberStep ops) p = .ok p' →
      p'.allowedTypes = p.allowedTypes := by
  induction ks with
  | nil => intro p p' h; cases h; rfl
  | cons k ks ih =>
    intro p p' h
    rw [List.foldlM_cons, ScenarioText.numberStep] at h
    cases hx : readNumber ops (trim (t.numbers k)) with
    | error e => rw [hx] at h; cases h
    | ok x =>
      rw [hx] at h
      exact (ih _ _ h).trans (allowedTypes_setNumber ops p k x)

theorem not_mem_fieldLine {c : Char} (hc : c ≠ ' ' ∧ c ≠ '"' ∧ c ≠ ':') {key value : List Char}
    (hk : c ∉ key) (hv : c ∉ value) : c ∉ fieldLine key value := by
  simp [fieldLine, quote, hc.1, hc.2.1, hc.2.2, hk, hv]

/-- The lines of a well-formed file hold no newline. -/
theorem newline_not_mem_lines {t : ScenarioText} (h : t.WellFormed) :
    ∀ l ∈ t.lines, '\n' ∉ l := by
  obtain ⟨hname, hnum, htypes⟩ := h
  have hc : '\n' ≠ ' ' ∧ '\n' ≠ '"' ∧ '\n' ≠ ':' := by decide
  intro l hl
  simp only [ScenarioText.lines, List.mem_cons, List.mem_append, List.mem_map,
    List.mem_singleton, List.not_mem_nil, or_false] at hl
  rcases hl with rfl | rfl | (⟨k, hk, rfl⟩ | rfl | rfl)
  · decide
  · exact not_mem_fieldLine hc (by decide) (by simp [quote, hname])
  · exact not_mem_fieldLine hc (by cases k <;> decide) (by simp [hnum k hk])
  · exact not_mem_fieldLine hc (by decide) (List.not_mem_append
      (List.not_mem_cons_of_ne_of_not_mem (by decide)
        (not_mem_quotedList (by decide) fun n hn => (htypes n hn).1)) (by decide))
  · decide

/-- **Loading a scenario file** laid out one key per line gives what the file says: each
number is `std::stod` of the text written for it, the classes are those named, and an error is
that of the first number or class name that does not read, or of a missing name or an empty
array.  This holds for every name and number text that keep to their line and every class
name that keeps to its array item. -/
theorem loadScenarioFromString_render (t : ScenarioText) (h : t.WellFormed) :
    loadScenarioFromString ops t.render = t.expected ops := by
  rw [loadScenarioFromString, ScenarioText.render, getlines_flatMap (newline_not_mem_lines h),
    ScenarioText.lines, loadLines_skip ops (by rfl),
    loadLines_name ops (keyValue_fieldLine (show ':' ∉ "name".toList by decide) (quote t.name)
      comma_not_trimmed) rfl,
    dropWhile_quote, extractString_quote_append _ (by decide)]
  show loadLines ops { ScenarioProfile.init ops with name := t.name } _ = _
  rw [loadLines_numberLines, ScenarioText.expected]
  cases hf :
    NumberKey.all.foldlM (t.numberStep ops) { ScenarioProfile.init ops with name := t.name }
  case error e => rfl
  case ok p =>
    have hp : p.allowedTypes = [] := allowedTypes_foldlM_numberStep ops t _ _ _ hf
    show loadLines ops p _ = _
    rw [loadLines_allowedTypes ops
        (keyValue_fieldLine (show ':' ∉ "allowed_types".toList by decide) ('[' :: quotedList _)
          (show isTrimmed ']' = false from rfl))
        rfl,
      List.dropWhile_cons_of_neg (by decide), accumulateArray_of_mem (by simp),
      extractStringArray_quotedList fun n hn => (h.2.2 n hn).2]
    show (t.allowedTypes.mapM stringToTrackClass >>= _) = _
    cases t.allowedTypes.mapM stringToTrackClass
    case error e => rfl
    case ok types =>
      show loadLines ops _ [['}']] = _
      rw [loadLines_skip ops (by rfl), loadLines_nil, hp, List.nil_append]
      rfl

/-- `std::stod` on decimal digits only, for the example below. -/
def digitOps : DoubleOps Nat where
  stod t :=
    if t ≠ [] ∧ t.all Char.isDigit then some (t.foldl (fun n c => 10 * n + (c.toNat - 48)) 0)
    else none
  toInt := Int.ofNat
  zero := 0

/-- A raid scenario with whole numbers. -/
def raidText : ScenarioText where
  name := "raid".toList
  numbers
    | .minObjects => "10".toList
    | .maxObjects => "30".toList
    | .spawnRateHz => "2".toList
    | .minRangeM => "2000".toList
    | .maxRangeM => "40000".toList
    | .minSpeedMps => "100".toList
    | .maxSpeedMps => "800".toList
    | .hostileProbability => " 1 ".toList
  allowedTypes := ["UAV_SMALL".toList, "MISSILE".toList, "ROCKET_ARTILLERY".toList]

theorem loadScenarioFromString_render_raid :
    raidText.WellFormed ∧
      loadScenarioFromString digitOps raidText.render =
        .ok { name := "raid".toList, minObjects := 10, maxObjects := 30,
              allowedTypes := [.uavSmall, .missile, .rocketArtillery], spawnRateHz := 2,
              minRangeM := 2000, maxRangeM := 40000, minSpeedMps := 100, maxSpeedMps := 800,
              hostileProbability := 1 } :=
  ⟨by decide, (loadScenarioFromString_render digitOps raidText (by decide)).trans rfl⟩

end ScenarioLoader

end NetNodeGateway
