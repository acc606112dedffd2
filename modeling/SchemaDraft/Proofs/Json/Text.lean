import Mathlib.Data.List.DropRight
import SchemaDraft.Proofs.Json.Number

/-!
JSON text read back. The text that is written for a value is read as that value, if its numbers
have JSON texts of their own and its containers nest no deeper than the reader allows.
-/

namespace SchemaDraft.Json

mutual

/-- How deep the containers of a value nest. -/
def depth : Json → Nat
  | .arr items => itemsDepth items + 1
  | .obj members => membersDepth members + 1
  | _ => 0

def itemsDepth : List Json → Nat
  | [] => 0
  | item :: rest => max (depth item) (itemsDepth rest)

def membersDepth : List (String × Json) → Nat
  | [] => 0
  | (_, value) :: rest => max (depth value) (membersDepth rest)

end

mutual

/-- Every number in the value has a text that is read as this number. -/
def IsExact : Json → Prop
  | .int n => IsMachineInt n
  | .float x => x.isFinite = true
  | .arr items => ItemsExact items
  | .obj members => MembersExact members
  | _ => True

def ItemsExact : List Json → Prop
  | [] => True
  | item :: rest => IsExact item ∧ ItemsExact rest

def MembersExact : List (String × Json) → Prop
  | [] => True
  | (_, value) :: rest => IsExact value ∧ MembersExact rest

end

variable {rest : List Char}

/-- A control character is written by the two last digits of its code. -/
private theorem codeUnit?_hexDigit {n : Nat} (hn : n < 0x20) :
    codeUnit? '0' '0' (hexDigit (n / 16)) (hexDigit n) = some n := by
  have hall : ∀ k < 0x20, codeUnit? '0' '0' (hexDigit (k / 16)) (hexDigit k) = some k := by decide
  exact hall n hn

theorem stringRest_escapeChar (c : Char) (text : List Char) :
    stringRest (escapeChar c ++ text) = (stringRest text).map fun (s, r) => (c :: s, r) := by
  by_cases hshort : c ∈ ['"', '\\', '\n', '\r', '\t', '\x08', '\x0c']
  · simp only [List.mem_cons, List.not_mem_nil, or_false] at hshort
    rcases hshort with rfl | rfl | rfl | rfl | rfl | rfl | rfl <;> rfl
  simp only [List.mem_cons, List.not_mem_nil, or_false, not_or] at hshort
  obtain ⟨hquote, hbackslash, hline, hreturn, htab, hback, hfeed⟩ := hshort
  rw [escapeChar, if_neg hquote, if_neg hbackslash, if_neg hline, if_neg hreturn, if_neg htab,
    if_neg hback, if_neg hfeed]
  by_cases hcontrol : c.toNat < 0x20
  · have hunit := codeUnit?_hexDigit hcontrol
    have hhigh : isHighSurrogate c.toNat = false := by simp [isHighSurrogate]; omega
    have hlow : isLowSurrogate c.toNat = false := by simp [isLowSurrogate]; omega
    rw [if_pos hcontrol]
    simp [stringRest, hunit, hhigh, hlow]
  · rw [if_neg hcontrol, List.singleton_append, stringRest.eq_def]
    split <;> simp_all

/-- The rest of a string ends with the quote that was written after it. -/
theorem stringRest_flatMap_escapeChar (text rest : List Char) :
    stringRest (text.flatMap escapeChar ++ '"' :: rest) = some (text, rest) := by
  induction text with
  | nil => rfl
  | cons c text ih =>
    rw [List.flatMap_cons, List.append_assoc, stringRest_escapeChar, ih]
    rfl

theorem toList_quote_append (text : String) :
    (quote text).toList ++ rest = '"' :: (text.toList.flatMap escapeChar ++ '"' :: rest) := by
  simp [quote]

variable {fuel depth : Nat}

theorem value_quote (text : String) :
    value (fuel + 1) depth ((quote text).toList ++ rest) = some (.str text, rest) := by
  have hstring := stringRest_flatMap_escapeChar text.toList rest
  rw [toList_quote_append, value]
  change (stringRest (text.toList.flatMap escapeChar ++ '"' :: rest)).map _ = _
  rw [hstring]
  simp

theorem skipJsonBlanks_skipJsonBlanks (text : List Char) :
    skipJsonBlanks (skipJsonBlanks text) = skipJsonBlanks text :=
  List.dropWhile_idempotent isJsonBlank text

theorem value_skipJsonBlanks (text : List Char) :
    value fuel depth (skipJsonBlanks text) = value fuel depth text := by
  cases fuel with
  | zero => simp only [value]
  | succ fuel => rw [value, value, skipJsonBlanks_skipJsonBlanks]

/-- No value starts with a closing bracket. -/
theorem value_closing (text : List Char) : value fuel depth (']' :: text) = none := by
  cases fuel with
  | zero => simp only [value]
  | succ fuel =>
    rw [value]
    rfl

theorem items_skipJsonBlanks (text : List Char) :
    items fuel depth (skipJsonBlanks text) = items fuel depth text := by
  cases fuel with
  | zero => simp only [items]
  | succ fuel => rw [items, items, value_skipJsonBlanks]

theorem members_skipJsonBlanks (text : List Char) :
    members fuel depth (skipJsonBlanks text) = members fuel depth text := by
  cases fuel with
  | zero => simp only [members]
  | succ fuel => rw [members, members, skipJsonBlanks_skipJsonBlanks]

theorem items_closing (text : List Char) : items fuel depth (']' :: text) = none := by
  cases fuel with
  | zero => simp only [items]
  | succ fuel => rw [items, value_closing]

theorem members_closing (text : List Char) : members fuel depth ('\x7d' :: text) = none := by
  cases fuel with
  | zero => simp only [members]
  | succ fuel =>
    rw [members]
    rfl

theorem items_of_last {text : List Char} {item : Json}
    (h : value fuel depth text = some (item, ']' :: rest)) :
    items (fuel + 1) depth text = some ([item], rest) := by
  rw [items, h]
  rfl

theorem items_of_next {text next : List Char} {item : Json} {others : List Json}
    (h : value fuel depth text = some (item, ',' :: next))
    (hnext : items fuel depth next = some (others, rest)) :
    items (fuel + 1) depth text = some (item :: others, rest) := by
  rw [items, h]
  change (items fuel depth next).map _ = _
  rw [hnext]
  rfl

theorem value_of_items {text : List Char} {read : List Json}
    (h : items fuel depth text = some (read, rest)) :
    value (fuel + 1) (depth + 1) ('[' :: text) = some (.arr read, rest) := by
  have hopen : skipJsonBlanks ('[' :: text) = '[' :: text := rfl
  rw [← items_skipJsonBlanks] at h
  simp only [value, hopen]
  split
  case h_1 hclosing => simp [hclosing, items_closing] at h
  case h_2 => simp [h]

/-- A member whose value stands at the front of a text. -/
def memberText (name : String) (text : List Char) : List Char := (quote name).toList ++ ':' :: text

theorem members_of_last {name : String} {text : List Char} {item : Json}
    (h : value fuel depth text = some (item, '\x7d' :: rest)) :
    members (fuel + 1) depth (memberText name text) = some ([(name, item)], rest) := by
  have hname := stringRest_flatMap_escapeChar name.toList (':' :: text)
  rw [memberText, toList_quote_append]
  simp [members, skipJsonBlanks, isJsonBlank, hname, h]

theorem members_of_next {name : String} {text next : List Char} {item : Json}
    {others : List (String × Json)} (h : value fuel depth text = some (item, ',' :: next))
    (hnext : members fuel depth next = some (others, rest)) :
    members (fuel + 1) depth (memberText name text) = some ((name, item) :: others, rest) := by
  have hname := stringRest_flatMap_escapeChar name.toList (':' :: text)
  rw [memberText, toList_quote_append]
  simp [members, skipJsonBlanks, isJsonBlank, hname, h, hnext]

theorem value_of_members {text : List Char} {read : List (String × Json)}
    (h : members fuel depth text = some (read, rest)) :
    value (fuel + 1) (depth + 1) ('\x7b' :: text) = some (.obj read, rest) := by
  have hopen : skipJsonBlanks ('\x7b' :: text) = '\x7b' :: text := rfl
  rw [← members_skipJsonBlanks] at h
  simp only [value, hopen]
  split
  case h_1 hclosing => simp [hclosing, members_closing] at h
  case h_2 => simp [h]

private theorem toList_commas_cons_cons (text next : String) (texts : List String) :
    (",".intercalate (text :: next :: texts)).toList =
      text.toList ++ ',' :: (",".intercalate (next :: texts)).toList := by
  simp [String.intercalate_cons_cons]

private theorem endsNumber_cons {c : Char} (hc : c = ',' ∨ c = ']' ∨ c = '\x7d')
    (rest : List Char) : EndsNumber (c :: rest) := by
  intro d hd
  obtain rfl : c = d := by simpa using hd
  rcases hc with rfl | rfl | rfl <;> decide

mutual

/-- Fuel beyond the length of the text is enough: every item starts at a character of its own. -/
theorem value_print (json : Json) (fuel depth : Nat) (rest : List Char) (hexact : json.IsExact)
    (hdepth : json.depth ≤ depth) (hfuel : json.print.toList.length < fuel)
    (hrest : EndsNumber rest) :
    value fuel depth (json.print.toList ++ rest) = some (json, rest) := by
  obtain ⟨fuel, rfl⟩ := Nat.exists_eq_succ_of_ne_zero (by omega : fuel ≠ 0)
  cases json with
  | null => rw [value]; rfl
  | bool b => cases b <;> rw [value] <;> rfl
  | int n => exact value_repr hexact hrest
  | float x => exact value_floatText hexact hrest
  | str s => exact value_quote s
  | arr items =>
    obtain ⟨depth, rfl⟩ : ∃ inner, depth = inner + 1 :=
      ⟨depth - 1, by simp only [Json.depth] at hdepth; omega⟩
    cases items with
    | nil => rw [value]; rfl
    | cons item others =>
      have htext : (print (.arr (item :: others))).toList ++ rest =
          '[' :: ((",".intercalate (printItems (item :: others))).toList ++ ']' :: rest) := by
        simp [print]
      have hitems := items_printItems item others fuel depth rest hexact
        (by simpa [Json.depth] using hdepth)
        (by simp [print] at hfuel ⊢; omega)
      rw [htext]
      exact value_of_items hitems
  | obj members =>
    obtain ⟨depth, rfl⟩ : ∃ inner, depth = inner + 1 :=
      ⟨depth - 1, by simp only [Json.depth] at hdepth; omega⟩
    cases members with
    | nil => rw [value]; rfl
    | cons first others =>
      obtain ⟨name, item⟩ := first
      have htext : (print (.obj ((name, item) :: others))).toList ++ rest =
          '\x7b' :: ((",".intercalate (printMembers ((name, item) :: others))).toList ++
            '\x7d' :: rest) := by
        simp [print]
      have hmembers := members_printMembers name item others fuel depth rest hexact
        (by simpa [Json.depth] using hdepth)
        (by simp [print] at hfuel ⊢; omega)
      rw [htext]
      exact value_of_members hmembers
  termination_by fuel

theorem items_printItems (item : Json) (others : List Json) (fuel depth : Nat)
    (rest : List Char) (hexact : ItemsExact (item :: others))
    (hdepth : itemsDepth (item :: others) ≤ depth)
    (hfuel : (",".intercalate (printItems (item :: others))).toList.length + 1 < fuel) :
    items fuel depth ((",".intercalate (printItems (item :: others))).toList ++ ']' :: rest) =
      some (item :: others, rest) := by
  obtain ⟨fuel, rfl⟩ := Nat.exists_eq_succ_of_ne_zero (by omega : fuel ≠ 0)
  simp only [itemsDepth, Nat.max_le] at hdepth
  cases others with
  | nil =>
    have hlast := value_print item fuel depth (']' :: rest) hexact.1 hdepth.1
      (by simp [printItems] at hfuel ⊢; omega) (endsNumber_cons (by simp) rest)
    simpa [printItems] using items_of_last hlast
  | cons next others =>
    simp only [printItems, toList_commas_cons_cons, List.length_append, List.length_cons] at hfuel ⊢
    rw [List.append_assoc, List.cons_append]
    exact items_of_next
      (value_print item fuel depth _ hexact.1 hdepth.1 (by omega) (endsNumber_cons (by simp) _))
      (items_printItems next others fuel depth rest hexact.2 hdepth.2
        (by simp only [printItems]; omega))
  termination_by fuel

theorem members_printMembers (name : String) (item : Json) (others : List (String × Json))
    (fuel depth : Nat) (rest : List Char) (hexact : MembersExact ((name, item) :: others))
    (hdepth : membersDepth ((name, item) :: others) ≤ depth)
    (hfuel : (",".intercalate (printMembers ((name, item) :: others))).toList.length + 1 < fuel) :
    members fuel depth
        ((",".intercalate (printMembers ((name, item) :: others))).toList ++ '\x7d' :: rest) =
      some ((name, item) :: others, rest) := by
  obtain ⟨fuel, rfl⟩ := Nat.exists_eq_succ_of_ne_zero (by omega : fuel ≠ 0)
  simp only [membersDepth, Nat.max_le] at hdepth
  have hmember (after : List Char) : (quote name ++ ":" ++ item.print).toList ++ after =
      memberText name (item.print.toList ++ after) := by
    simp [memberText]
  have hlength : item.print.toList.length ≤ (quote name ++ ":" ++ item.print).toList.length := by
    simp only [String.toList_append, List.length_append]
    omega
  cases others with
  | nil =>
    have hlast := value_print item fuel depth ('\x7d' :: rest) hexact.1 hdepth.1
      (by simp [printMembers] at hfuel ⊢; omega) (endsNumber_cons (by simp) rest)
    simp only [printMembers, String.intercalate_singleton, hmember]
    exact members_of_last hlast
  | cons next others =>
    obtain ⟨nextName, nextItem⟩ := next
    simp only [printMembers, toList_commas_cons_cons, List.length_append, List.length_cons]
      at hfuel ⊢
    rw [List.append_assoc, List.cons_append, hmember]
    exact members_of_next
      (value_print item fuel depth _ hexact.1 hdepth.1 (by omega) (endsNumber_cons (by simp) _))
      (members_printMembers nextName nextItem others fuel depth rest hexact.2 hdepth.2
        (by simp only [printMembers]; omega))
  termination_by fuel

end

/-- The text of a value is read as the value. -/
theorem read?_print {json : Json} {depth : Nat} (hexact : json.IsExact)
    (hdepth : json.depth ≤ depth) : read? depth json.print = some json := by
  have hvalue := value_print json (2 * json.print.toList.length + 2) depth [] hexact hdepth
    (by omega) (by intro c hc; simp at hc)
  rw [List.append_nil] at hvalue
  rw [read?, hvalue]
  rfl

end SchemaDraft.Json
