import DaoForge.Tree.JsonPrinter
import DaoForge.Tree.JsonReader

/-!
# DaoForge.Proofs.Tree.Json

JSON that is written is read back.

1. `takeString_jsonString`: a string, whatever its characters;
2. `readValue_toPrettyJson`: a record of texts and of such records, all of which is wanted
   (`Tree.Wanted`), however deep it is indented;
3. `ofJsonFor_toPrettyJson`: so is the text of a file that holds nothing else.
-/

namespace DaoForge

open DaoForge.Tree JsonReader

/-! ## strings -/

theorem hexDigitValue?_hexDigit :
    ∀ n < 16, CharClass.hexDigitValue? (Tree.hexDigit n) = some n := by
  decide

namespace JsonReader

/-- Two digits that are written for a control character are read back. -/
theorem readUnicodeEscape_control {c : Char} (h : c.toNat < 32) (rest : List Char) :
    readUnicodeEscape ('0' :: '0' :: hexDigit (c.toNat / 16) :: hexDigit (c.toNat % 16) :: rest) =
      .ok (c, rest) := by
  have hzero : CharClass.hexDigitValue? '0' = some 0 := by decide
  have hcode : ((0 * 16 + 0) * 16 + c.toNat / 16) * 16 + c.toNat % 16 = c.toNat := by omega
  have hhex : readHex ('0' :: '0' :: hexDigit (c.toNat / 16) :: hexDigit (c.toNat % 16) :: rest) =
      .ok (c.toNat, rest) := by
    simp only [readHex, hzero, hexDigitValue?_hexDigit (c.toNat / 16) (by omega),
      hexDigitValue?_hexDigit (c.toNat % 16) (by omega), hcode]
  simp only [readUnicodeEscape, hhex]
  rw [if_neg (by omega), if_neg (by omega), Char.ofNat_toNat]

/-- A character of a string is read as it was written, one step for each. -/
theorem readString_jsonChar (c : Char) (fuel : Nat) (taken rest : List Char) :
    readString (fuel + 1) taken (jsonChar c ++ rest) = readString fuel (c :: taken) rest := by
  unfold jsonChar
  split
  · next h => subst h; rfl
  split
  · next h => subst h; rfl
  split
  · next h => subst h; rfl
  split
  · next h => subst h; rfl
  split
  · next h => subst h; rfl
  split
  · next h =>
    obtain rfl : c = Char.ofNat 8 := by rw [← h, Char.ofNat_toNat]
    rfl
  split
  · next h =>
    obtain rfl : c = Char.ofNat 12 := by rw [← h, Char.ofNat_toNat]
    rfl
  split
  · next hcontrol =>
    simp only [List.cons_append, List.nil_append, readString, readEscape,
      readUnicodeEscape_control hcontrol]
  · next hcontrol => simp [readString, *]

theorem readString_flatMap (cs taken rest : List Char) {fuel : Nat} (h : cs.length < fuel) :
    readString fuel taken (cs.flatMap jsonChar ++ '"' :: rest) =
      .ok (String.ofList (taken.reverse ++ cs), rest) := by
  obtain ⟨fuel, rfl⟩ := Nat.exists_eq_add_one_of_ne_zero (Nat.ne_zero_of_lt h)
  induction cs generalizing taken fuel with
  | nil => simp [readString]
  | cons c cs ih =>
      rw [List.flatMap_cons, List.append_assoc, readString_jsonChar]
      have hrest : cs.length < fuel := by simpa using h
      obtain ⟨fuel, rfl⟩ := Nat.exists_eq_add_one_of_ne_zero (Nat.ne_zero_of_lt hrest)
      rw [ih _ _ hrest, List.reverse_cons, List.append_assoc, List.singleton_append]

theorem length_le_flatMap_jsonChar (cs : List Char) :
    cs.length ≤ (cs.flatMap jsonChar).length := by
  have hone (c : Char) : 1 ≤ (jsonChar c).length := by
    unfold jsonChar
    repeat' split
    all_goals simp
  induction cs with
  | nil => exact Nat.le_refl 0
  | cons c cs ih =>
      rw [List.flatMap_cons, List.length_append, List.length_cons]
      have := hone c
      omega

/-- **Strings** are read back, whatever their characters. -/
theorem takeString_jsonString {use : JsonUse} (huse : use.isSkipped = false) (text : String)
    (rest : List Char) :
    takeString use (text.toList.flatMap jsonChar ++ '"' :: rest) = .ok (text, rest) := by
  have hlength : text.toList.length <
      (text.toList.flatMap jsonChar ++ '"' :: rest).length + 1 := by
    have := length_le_flatMap_jsonChar text.toList
    rw [List.length_append]
    omega
  rw [takeString, huse, if_neg Bool.false_ne_true, readString_flatMap _ _ _ hlength,
    List.reverse_nil, List.nil_append, String.ofList_toList]

/-! ## white space -/

theorem skipSpace_append {space : List Char} (h : ∀ c ∈ space, isSpace c = true) (cs : List Char) :
    skipSpace (space ++ cs) = skipSpace cs := by
  induction space with
  | nil => rfl
  | cons c space ih =>
      obtain ⟨hc, hspace⟩ := List.forall_mem_cons.mp h
      rw [List.cons_append, skipSpace, List.dropWhile_cons_of_pos hc]
      exact ih hspace

theorem isSpace_indentedLine (depth : Nat) : ∀ c ∈ (indentedLine depth).toList, isSpace c = true := by
  have htext : (indentedLine depth).toList = '\n' :: List.replicate (2 * depth) ' ' := by
    simp [indentedLine]
  rw [htext, List.forall_mem_cons]
  refine ⟨rfl, fun c hc => ?_⟩
  rw [List.eq_of_mem_replicate hc]
  rfl

/-- White space in front of a value is skipped. -/
theorem readValue_space {space : List Char} (h : ∀ c ∈ space, isSpace c = true) (use : JsonUse)
    (fuel depth : Nat) (cs : List Char) :
    readValue use fuel depth (space ++ cs) = readValue use fuel depth cs := by
  cases fuel with
  | zero => rw [readValue, readValue]
  | succ fuel => rw [readValue, readValue, skipSpace_append h]

theorem readFields_space {space : List Char} (h : ∀ c ∈ space, isSpace c = true) (use : JsonUse)
    (fuel depth : Nat) (first : Bool) (taken : List (Key × Tree)) (cs : List Char) :
    readFields use fuel depth first taken (space ++ cs) = readFields use fuel depth first taken cs := by
  cases fuel with
  | zero => rw [readFields, readFields]
  | succ fuel => rw [readFields, readFields, skipSpace_append h]

end JsonReader

/-! ## records -/

/-- A text, or a record of such values, all of which is wanted; at most so many records are inside one
another. -/
inductive Tree.Wanted : JsonUse → Nat → Tree → Prop
  | text {use : JsonUse} {depth : Nat} {value : String} (wanted : use.isSkipped = false) :
      Wanted use depth (.text value)
  | record {use : JsonUse} {depth : Nat} {fields : List (String × Tree)}
      (wanted : use.isSkipped = false)
      (inner : ∀ field ∈ fields, Wanted (use.field field.1) depth field.2) :
      Wanted use (depth + 1) (.record fields)

namespace JsonReader

/-- A string with its quotes. -/
theorem toList_jsonString (text : String) :
    (jsonString text).toList = '"' :: (text.toList.flatMap jsonChar ++ ['"']) := by
  simp [jsonString]

/-- A field as it is written. -/
def fieldText (depth : Nat) (field : String × Tree) : List Char :=
  (jsonString field.1).toList ++ ':' :: ' ' :: (toPrettyJson depth field.2).toList

theorem fieldText_eq (depth : Nat) (field : String × Tree) :
    fieldText depth field = '"' :: (fieldText depth field).tail := by
  rw [fieldText, toList_jsonString]
  rfl

theorem length_lt_fieldText (depth : Nat) (field : String × Tree) :
    (toPrettyJson depth field.2).toList.length + 1 < (fieldText depth field).length := by
  rw [fieldText, List.length_append, List.length_cons, List.length_cons]
  omega

/-- The value of a field is read as it was written. -/
def ReadsField (use : JsonUse) (depth indent : Nat) (field : String × Tree) : Prop :=
  ∀ fuel rest, (toPrettyJson indent field.2).toList.length < fuel →
    readValue (use.field field.1) fuel depth ((toPrettyJson indent field.2).toList ++ rest) =
      .ok (field.2, rest)

theorem readField_fieldText {use : JsonUse} (huse : use.isSkipped = false) {depth indent : Nat}
    {field : String × Tree} (hfield : ReadsField use depth indent field) (taken : List (Key × Tree))
    (rest : List Char) {fuel : Nat} (hfuel : (toPrettyJson indent field.2).toList.length < fuel) :
    readField use (fuel + 1) depth taken ((fieldText indent field).tail ++ rest) =
      readFields use fuel depth false ((.name field.1, field.2) :: taken) rest := by
  have htext : (fieldText indent field).tail ++ rest =
      field.1.toList.flatMap jsonChar ++
        '"' :: (':' :: (' ' :: ((toPrettyJson indent field.2).toList ++ rest))) := by
    simp [fieldText, toList_jsonString]
  have hblank : ∀ c ∈ [' '], isSpace c = true := by decide
  have hspace := readValue_space hblank (use.field field.1) fuel depth
    ((toPrettyJson indent field.2).toList ++ rest)
  rw [List.singleton_append] at hspace
  rw [htext, readField, takeString_jsonString huse]
  simp only [skipSpace, List.dropWhile_cons_of_neg (show ¬ isSpace ':' = true by decide)]
  rw [hspace, hfield fuel rest hfuel]

theorem skipSpace_of_not {c : Char} (h : isSpace c = false) (cs : List Char) :
    skipSpace (c :: cs) = c :: cs :=
  List.dropWhile_cons_of_neg (by rw [h]; exact Bool.false_ne_true)

/-- The first field of a record begins with a quote. -/
theorem readFields_quote (use : JsonUse) (fuel depth : Nat) (tail : List Char) :
    readFields use (fuel + 1) depth true [] ('"' :: tail) = readField use fuel depth [] tail := by
  rw [readFields, skipSpace_of_not rfl]
  simp

/-- A comma is followed by the next field. -/
theorem readFields_comma (use : JsonUse) (fuel depth : Nat) (taken : List (Key × Tree))
    {cs tail : List Char} (h : skipSpace cs = '"' :: tail) :
    readFields use (fuel + 1) depth false taken (',' :: cs) = readField use fuel depth taken tail := by
  rw [readFields, skipSpace_of_not rfl]
  simp [h]

theorem readFields_end (use : JsonUse) (fuel depth : Nat) (first : Bool) (taken : List (Key × Tree))
    (rest : List Char) :
    readFields use (fuel + 1) depth first taken ('\x7d' :: rest) = .ok (taken.reverse, rest) := by
  rw [readFields, skipSpace_of_not rfl]
  simp

section Fields

variable {use : JsonUse} (huse : use.isSkipped = false) {depth indent : Nat}
  {separator closing : List Char} (hseparator : ∀ c ∈ separator, isSpace c = true)
  (hclosing : ∀ c ∈ closing, isSpace c = true) {fields : List (String × Tree)}

/-- The fields after the first of a record, up to its closing brace. -/
def laterFields (indent : Nat) (separator closing : List Char) (fields : List (String × Tree)) :
    List Char :=
  (fields.flatMap fun field => ',' :: (separator ++ fieldText indent field)) ++ (closing ++ ['\x7d'])

theorem laterFields_pos : 0 < (laterFields indent separator closing fields).length := by
  rw [laterFields, List.length_append, List.length_append, List.length_singleton]
  omega

theorem laterFields_cons (field : String × Tree) :
    laterFields indent separator closing (field :: fields) =
      ',' :: (separator ++ (fieldText indent field ++ laterFields indent separator closing fields)) := by
  simp [laterFields]

include huse hseparator hclosing

/-- Fields that follow others are read as they were written. -/
theorem readFields_later (hfields : ∀ field ∈ fields, ReadsField use depth indent field)
    (taken : List (Key × Tree)) (rest : List Char) {fuel : Nat}
    (hfuel : (laterFields indent separator closing fields).length ≤ fuel) :
    readFields use fuel depth false taken (laterFields indent separator closing fields ++ rest) =
      .ok (taken.reverse ++ fields.map fun field => (.name field.1, field.2), rest) := by
  induction fields generalizing taken fuel with
  | nil =>
      rw [laterFields, List.flatMap_nil, List.nil_append, List.length_append,
        List.length_singleton] at hfuel
      obtain ⟨fuel, rfl⟩ := Nat.exists_eq_add_one_of_ne_zero (Nat.ne_of_gt (by omega : 0 < fuel))
      rw [laterFields, List.flatMap_nil, List.nil_append, List.append_assoc,
        readFields_space hclosing, List.singleton_append, readFields_end, List.map_nil,
        List.append_nil]
  | cons field fields ih =>
      obtain ⟨hfield, hrest⟩ := List.forall_mem_cons.mp hfields
      rw [laterFields_cons, List.length_cons, List.length_append, List.length_append] at hfuel
      have hvalue := length_lt_fieldText indent field
      obtain ⟨fuel, rfl⟩ : ∃ n, fuel = n + 1 + 1 := ⟨fuel - 2, by omega⟩
      have hnext : skipSpace (separator ++
            (fieldText indent field ++ laterFields indent separator closing fields) ++ rest) =
          '"' :: ((fieldText indent field).tail ++
            (laterFields indent separator closing fields ++ rest)) := by
        rw [List.append_assoc, skipSpace_append hseparator, List.append_assoc, fieldText_eq,
          List.cons_append, skipSpace_of_not rfl, List.tail_cons]
      rw [laterFields_cons, List.cons_append, readFields_comma _ _ _ _ hnext,
        readField_fieldText huse hfield _ _ (by omega), ih hrest _ (by omega), List.reverse_cons,
        List.append_assoc, List.singleton_append, List.map_cons]

/-- So are all fields of a record. -/
theorem readFields_all {field : String × Tree}
    (hfields : ∀ f ∈ field :: fields, ReadsField use depth indent f) (rest : List Char) {fuel : Nat}
    (hfuel : (fieldText indent field ++ laterFields indent separator closing fields).length ≤ fuel) :
    readFields use fuel depth true []
        (separator ++ (fieldText indent field ++ laterFields indent separator closing fields) ++ rest) =
      .ok ((field :: fields).map fun field => (.name field.1, field.2), rest) := by
  obtain ⟨hfield, hrest⟩ := List.forall_mem_cons.mp hfields
  rw [List.length_append] at hfuel
  have hvalue := length_lt_fieldText indent field
  have hlater : 0 < (laterFields indent separator closing fields).length := laterFields_pos
  obtain ⟨fuel, rfl⟩ : ∃ n, fuel = n + 1 + 1 := ⟨fuel - 2, by omega⟩
  rw [List.append_assoc, readFields_space hseparator, List.append_assoc, fieldText_eq,
    List.cons_append, readFields_quote, readField_fieldText huse hfield _ _ (by omega),
    readFields_later huse hseparator hclosing hrest _ _ (by omega)]
  rfl

end Fields

theorem toPrettyEntries_record (depth : Nat) (fields : List (String × Tree)) :
    toPrettyEntries depth (fields.map fun field => (.name field.1, field.2)) =
      fields.map fun field => jsonString field.1 ++ ": " ++ toPrettyJson depth field.2 := by
  induction fields with
  | nil => rw [List.map_nil, toPrettyEntries, List.map_nil]
  | cons field fields ih => rw [List.map_cons, toPrettyEntries, ih, List.map_cons, Key.text]

theorem toList_intercalate_cons (separator first : String) (others : List String) :
    (separator.intercalate (first :: others)).toList =
      first.toList ++ others.flatMap fun s => separator.toList ++ s.toList := by
  induction others generalizing first with
  | nil => simp
  | cons next others ih =>
      rw [String.intercalate_cons_cons, String.toList_append, ih, String.toList_append,
        List.flatMap_cons, List.append_assoc, List.append_assoc]

/-- An indented record with fields. -/
theorem toList_toPrettyJson_record (indent : Nat) (field : String × Tree)
    (fields : List (String × Tree)) :
    (toPrettyJson indent (.record (field :: fields))).toList =
      '\x7b' :: ((indentedLine (indent + 1)).toList ++ (fieldText (indent + 1) field ++
        laterFields (indent + 1) (indentedLine (indent + 1)).toList (indentedLine indent).toList
          fields)) := by
  have hline (f : String × Tree) :
      (jsonString f.1 ++ ": " ++ toPrettyJson (indent + 1) f.2).toList = fieldText (indent + 1) f := by
    simp [fieldText]
  rw [record, toPrettyJson, toPrettyEntries_record, block, if_neg (by simp), List.map_cons]
  simp only [String.toList_append, toList_intercalate_cons, hline, List.flatMap_map, laterFields]
  simp

theorem toPrettyJson_nil (indent : Nat) :
    (toPrettyJson indent (.record [])).toList = ['\x7b', '\x7d'] := by
  simp [record, toPrettyJson, toPrettyEntries, block]

/-- **Records** of texts are read back, however deep they are indented. -/
theorem readValue_toPrettyJson {use : JsonUse} {depth : Nat} {tree : Tree}
    (h : tree.Wanted use depth) (indent : Nat) (rest : List Char) {fuel : Nat}
    (hfuel : (toPrettyJson indent tree).toList.length < fuel) :
    readValue use fuel depth ((toPrettyJson indent tree).toList ++ rest) = .ok (tree, rest) := by
  induction h generalizing indent rest fuel with
  | @text use depth value huse =>
      obtain ⟨fuel, rfl⟩ := Nat.exists_eq_add_one_of_ne_zero (Nat.ne_zero_of_lt hfuel)
      rw [toPrettyJson, toList_jsonString, List.cons_append, List.append_assoc, List.singleton_append,
        readValue, skipSpace_of_not rfl]
      simp only [takeString_jsonString huse]
  | @record use depth fields huse hinner ih =>
      obtain ⟨fuel, rfl⟩ := Nat.exists_eq_add_one_of_ne_zero (Nat.ne_zero_of_lt hfuel)
      have hdepth : JsonUse.inner use (depth + 1) = some depth := by
        rw [JsonUse.inner, huse, if_neg Bool.false_ne_true]
      cases fields with
      | nil =>
          rw [toPrettyJson_nil] at hfuel ⊢
          obtain ⟨fuel, rfl⟩ : ∃ n, fuel = n + 1 := ⟨fuel - 1, by simp at hfuel; omega⟩
          rw [List.cons_append, readValue, skipSpace_of_not rfl]
          simp only [hdepth, List.singleton_append, readFields_end]
          rfl
      | cons field fields =>
          have hfields : ∀ f ∈ field :: fields, ReadsField use depth (indent + 1) f :=
            fun f hf fuel rest hfuel => ih f hf (indent + 1) rest hfuel
          rw [toList_toPrettyJson_record, List.length_cons, List.length_append] at hfuel
          rw [toList_toPrettyJson_record, List.cons_append, readValue, skipSpace_of_not rfl]
          simp only [hdepth]
          rw [readFields_all huse (isSpace_indentedLine _) (isSpace_indentedLine _) hfields rest
            (by omega)]
          rfl

end JsonReader

/-- The text of a file that holds a record, and ends with a line break. -/
theorem Tree.ofJsonFor_toPrettyJson {use : JsonUse} {tree : Tree} (h : tree.Wanted use 127) :
    Tree.ofJsonFor use (tree.toPrettyJson 0 ++ "\n") = .ok tree := by
  have hread : readFront use (tree.toPrettyJson 0 ++ "\n").toList = .ok (tree, ['\n']) := by
    have htext : (tree.toPrettyJson 0 ++ "\n").toList = (tree.toPrettyJson 0).toList ++ ['\n'] := by
      simp
    rw [htext, readFront]
    refine readValue_toPrettyJson h 0 ['\n'] ?_
    rw [List.length_append]
    omega
  have hend : checkEnd ['\n'] = .ok () := rfl
  rw [ofJsonFor, ofJsonFront, hread]
  simp only [hend]
  rfl

end DaoForge
