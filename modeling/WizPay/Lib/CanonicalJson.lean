import WizPay.Lib.GoText

/-!
# Canonical JSON

A subset of RFC 8785. The text determines the value: two values whose texts start alike,
each followed by something that no number can go on with, are the same value followed by
the same rest.
-/
namespace CanonicalJson

open GoText

inductive Json
  | null
  | num (value : Nat)
  | str (text : String)
  | arr (items : List Json)
  | obj (fields : List (String × Json))

/-! ### Text -/

def hexDigit (n : Nat) : Char := "0123456789abcdef".toList.getD n '0'

def escape (c : Char) : List Char :=
  if c = '"' ∨ c = '\\' then ['\\', c]
  else if c.toNat = 0x08 then ['\\', 'b']
  else if c.toNat = 0x09 then ['\\', 't']
  else if c.toNat = 0x0A then ['\\', 'n']
  else if c.toNat = 0x0C then ['\\', 'f']
  else if c.toNat = 0x0D then ['\\', 'r']
  else if c.toNat < 0x20 then ['\\', 'u', '0', '0', hexDigit (c.toNat / 16), hexDigit (c.toNat % 16)]
  else [c]

def quoted (text : String) : List Char := '"' :: (text.toList.flatMap escape ++ ['"'])

mutual

def render : Json → List Char
  | .null => ['n', 'u', 'l', 'l']
  | .num value => (toString value).toList
  | .str text => quoted text
  | .arr items => '[' :: (renderItems true items ++ [']'])
  | .obj fields => '{' :: (renderFields true fields ++ ['}'])

/-- The items of an array; `first` says that no comma is due. -/
def renderItems (first : Bool) : List Json → List Char
  | [] => []
  | item :: rest => (if first then [] else [',']) ++ (render item ++ renderItems false rest)

def renderFields (first : Bool) : List (String × Json) → List Char
  | [] => []
  | (name, value) :: rest =>
    (if first then [] else [',']) ++ (quoted name ++ (':' :: (render value ++ renderFields false rest)))

end

def text (value : Json) : String := String.ofList (render value)

/-- An object, with its fields in the order of their names. -/
def object (fields : List (String × Json)) : Json :=
  .obj (fields.mergeSort fun first second => decide (first.1 ≤ second.1))

/-- A field that is left out when it has no value. -/
def optional (name : String) (value : Option Json) : List (String × Json) :=
  match value with
  | some value => [(name, value)]
  | none => []

/-! ### Strings -/

/-- The character that an escape stands for, and what follows it. -/
def unescape : List Char → Option (Char × List Char)
  | '\\' :: 'b' :: rest => some (Char.ofNat 0x08, rest)
  | '\\' :: 't' :: rest => some (Char.ofNat 0x09, rest)
  | '\\' :: 'n' :: rest => some (Char.ofNat 0x0A, rest)
  | '\\' :: 'f' :: rest => some (Char.ofNat 0x0C, rest)
  | '\\' :: 'r' :: rest => some (Char.ofNat 0x0D, rest)
  | '\\' :: 'u' :: '0' :: '0' :: high :: low :: rest =>
    some (Char.ofNat ("0123456789abcdef".toList.idxOf high * 16 + "0123456789abcdef".toList.idxOf low), rest)
  | '\\' :: c :: rest => some (c, rest)
  | c :: rest => some (c, rest)
  | [] => none

theorem ofNat_toNat {c : Char} {n : Nat} (code : c.toNat = n) : c = Char.ofNat n := by
  rw [← code, Char.ofNat_toNat]

theorem unescape_escape (c : Char) (rest : List Char) : unescape (escape c ++ rest) = some (c, rest) := by
  unfold escape
  split
  next special => rcases special with rfl | rfl <;> rfl
  split
  next code => rw [ofNat_toNat code]; rfl
  split
  next code => rw [ofNat_toNat code]; rfl
  split
  next code => rw [ofNat_toNat code]; rfl
  split
  next code => rw [ofNat_toNat code]; rfl
  split
  next code => rw [ofNat_toNat code]; rfl
  split
  next below =>
    -- every control character is read back from its two digits
    have table : ∀ n : Fin 32, Char.ofNat ("0123456789abcdef".toList.idxOf (hexDigit (n.val / 16)) * 16 +
        "0123456789abcdef".toList.idxOf (hexDigit (n.val % 16))) = Char.ofNat n.val := by decide +kernel
    have read := table ⟨c.toNat, below⟩
    rw [Char.ofNat_toNat] at read
    exact congrArg (fun d => some (d, rest)) read
  next special _ _ _ _ _ _ =>
    have slash : c ≠ '\\' := fun same => special (.inr same)
    unfold unescape
    split <;> simp_all

theorem escape_append_inj {c d : Char} {r s : List Char} (same : escape c ++ r = escape d ++ s) : c = d ∧ r = s := by
  have read := congrArg unescape same
  rw [unescape_escape, unescape_escape] at read
  simpa using read

theorem escape_ne_quote (c : Char) (r s : List Char) : escape c ++ r ≠ '"' :: s := by
  intro same
  have read := congrArg unescape same
  rw [unescape_escape] at read
  have quote : c = '"' := by simpa [unescape] using congrArg (Option.map Prod.fst) read
  subst quote
  simp [escape] at same

theorem escapes_append_inj {first second : List Char} {r s : List Char}
    (same : first.flatMap escape ++ '"' :: r = second.flatMap escape ++ '"' :: s) : first = second ∧ r = s := by
  induction first generalizing second with
  | nil =>
    cases second with
    | nil => exact ⟨rfl, by simpa using same⟩
    | cons d rest =>
      rw [List.flatMap_cons, List.append_assoc] at same
      exact absurd same.symm (escape_ne_quote d _ _)
  | cons c chars ih =>
    cases second with
    | nil =>
      rw [List.flatMap_cons, List.append_assoc] at same
      exact absurd same (escape_ne_quote c _ _)
    | cons d rest =>
      rw [List.flatMap_cons, List.flatMap_cons, List.append_assoc, List.append_assoc] at same
      obtain ⟨head, tail⟩ := escape_append_inj same
      obtain ⟨chars, rests⟩ := ih tail
      exact ⟨by rw [head, chars], rests⟩

theorem quoted_append_inj {first second : String} {r s : List Char} (same : quoted first ++ r = quoted second ++ s) :
    first = second ∧ r = s := by
  simp only [quoted, List.cons_append, List.append_assoc, List.nil_append, List.cons.injEq, true_and] at same
  obtain ⟨chars, rests⟩ := escapes_append_inj same
  exact ⟨String.toList_inj.mp chars, rests⟩

/-! ### Values -/

/-- A rest that no number can go on with. -/
def Stops (rest : List Char) : Prop := ∀ c ∈ rest.head?, isDecimalDigit c = false

theorem stops_cons {c : Char} {rest : List Char} (other : isDecimalDigit c = false) : Stops (c :: rest) := by
  intro d head
  cases head
  exact other

theorem digits_append_inj {first second r s : List Char} (decimalFirst : ∀ c ∈ first, isDecimalDigit c = true)
    (decimalSecond : ∀ c ∈ second, isDecimalDigit c = true) (stopFirst : Stops r) (stopSecond : Stops s)
    (same : first ++ r = second ++ s) : first = second ∧ r = s := by
  induction first generalizing second with
  | nil =>
    cases second with
    | nil => exact ⟨rfl, same⟩
    | cons d rest =>
      rw [List.nil_append] at same
      have digit := decimalSecond d (.head _)
      rw [stopFirst d (by rw [same]; rfl)] at digit
      cases digit
  | cons c chars ih =>
    cases second with
    | nil =>
      rw [List.nil_append] at same
      have digit := decimalFirst c (.head _)
      rw [stopSecond c (by rw [← same]; rfl)] at digit
      cases digit
    | cons d rest =>
      rw [List.cons_append, List.cons_append, List.cons.injEq] at same
      obtain ⟨chars, rests⟩ := ih (fun e member => decimalFirst e (.tail _ member))
        (fun e member => decimalSecond e (.tail _ member)) same.2
      exact ⟨by rw [same.1, chars], rests⟩

/-- Numbers the constructors, and five stands for none of them. -/
def kind : Json → Nat
  | .null => 0
  | .num _ => 1
  | .str _ => 2
  | .arr _ => 3
  | .obj _ => 4

/-- The constructor that a first character announces. -/
def announced (c : Char) : Nat :=
  if c = 'n' then 0 else if isDecimalDigit c then 1 else if c = '"' then 2 else if c = '[' then 3
  else if c = '{' then 4 else 5

theorem announced_digit {c : Char} (digit : isDecimalDigit c = true) : announced c = 1 := by
  have other : c ≠ 'n' := by
    rintro rfl
    cases digit
  simp [announced, other, digit]

theorem render_lead (value : Json) : ∃ c rest, render value = c :: rest ∧ announced c = kind value := by
  cases value with
  | null => exact ⟨_, _, rfl, rfl⟩
  | str text => exact ⟨_, _, rfl, rfl⟩
  | arr items => exact ⟨_, _, by rw [render], rfl⟩
  | obj fields => exact ⟨_, _, by rw [render], rfl⟩
  | num value =>
    have decimal : ∀ c ∈ (toString value).toList, isDecimalDigit c = true := decimal_digits
    have nonempty : (toString value).toList ≠ [] := by simp [Nat.toList_repr]
    rw [render]
    cases digits : (toString value).toList with
    | nil => exact absurd digits nonempty
    | cons c rest =>
      rw [digits] at decimal
      exact ⟨c, rest, rfl, announced_digit (decimal c (.head _))⟩

theorem kind_eq {v w : Json} {r s : List Char} (same : render v ++ r = render w ++ s) : kind v = kind w := by
  obtain ⟨c, first, headFirst, kindFirst⟩ := render_lead v
  obtain ⟨d, second, headSecond, kindSecond⟩ := render_lead w
  rw [headFirst, headSecond] at same
  have head := (List.cons.inj same).1
  rw [← kindFirst, ← kindSecond, head]

/-- A value never starts with a character that closes an array or an object. -/
theorem render_ne_other {v : Json} {c : Char} {r s : List Char} (other : announced c = 5) : render v ++ r ≠ c :: s := by
  obtain ⟨d, rest, head, announcedKind⟩ := render_lead v
  rw [head]
  intro same
  have first := (List.cons.inj same).1
  rw [first, other] at announcedKind
  cases v <;> cases announcedKind

theorem stops_items (items : List Json) (rest : List Char) : Stops (renderItems false items ++ ']' :: rest) := by
  cases items with
  | nil => exact stops_cons (by decide)
  | cons item others =>
    rw [renderItems]
    exact stops_cons (by decide)

theorem stops_fields (fields : List (String × Json)) (rest : List Char) :
    Stops (renderFields false fields ++ '}' :: rest) := by
  cases fields with
  | nil => exact stops_cons (by decide)
  | cons field others =>
    rw [renderFields]
    exact stops_cons (by decide)

/-- An item never reads as the end of its array. -/
theorem items_ne_close {item : Json} {others : List Json} {first : Bool} {r s : List Char} :
    renderItems first (item :: others) ++ r ≠ ']' :: s := by
  intro same
  rw [renderItems, List.append_assoc, List.append_assoc] at same
  cases first with
  | true => exact render_ne_other (by decide) same
  | false => exact absurd (List.cons.inj same).1 (by decide)

theorem fields_ne_close {field : String × Json} {others : List (String × Json)} {first : Bool} {r s : List Char} :
    renderFields first (field :: others) ++ r ≠ '}' :: s := by
  intro same
  rw [renderFields, List.append_assoc, List.append_assoc] at same
  cases first with
  | true | false => exact absurd (List.cons.inj same).1 (by decide)

mutual

theorem render_append_inj (v w : Json) {r s : List Char} (stopFirst : Stops r) (stopSecond : Stops s)
    (same : render v ++ r = render w ++ s) : v = w ∧ r = s := by
  have kinds := kind_eq same
  cases v with
  | null =>
    cases w with
    | null => exact ⟨rfl, by simpa [render] using same⟩
    | _ => cases kinds
  | num m =>
    cases w with
    | num n =>
      rw [render, render] at same
      obtain ⟨digits, rests⟩ := digits_append_inj decimal_digits decimal_digits stopFirst stopSecond same
      have value := parseBig_toString m
      rw [String.toList_inj.mp digits, parseBig_toString] at value
      have numbers : (n : Int) = m := by simpa using value
      exact ⟨by rw [Int.ofNat_inj.mp numbers], rests⟩
    | _ => cases kinds
  | str first =>
    cases w with
    | str second =>
      rw [render, render] at same
      obtain ⟨texts, rests⟩ := quoted_append_inj same
      exact ⟨by rw [texts], rests⟩
    | _ => cases kinds
  | arr first =>
    cases w with
    | arr second =>
      rw [render, render] at same
      simp only [List.cons_append, List.append_assoc, List.cons.injEq, true_and, List.nil_append] at same
      obtain ⟨items, rests⟩ := renderItems_append_inj first second true same
      exact ⟨by rw [items], rests⟩
    | _ => cases kinds
  | obj first =>
    cases w with
    | obj second =>
      rw [render, render] at same
      simp only [List.cons_append, List.append_assoc, List.cons.injEq, true_and, List.nil_append] at same
      obtain ⟨fields, rests⟩ := renderFields_append_inj first second true same
      exact ⟨by rw [fields], rests⟩
    | _ => cases kinds

theorem renderItems_append_inj (vs ws : List Json) (first : Bool) {r s : List Char}
    (same : renderItems first vs ++ ']' :: r = renderItems first ws ++ ']' :: s) : vs = ws ∧ r = s := by
  match vs, ws with
  | [], [] => exact ⟨rfl, by simpa [renderItems] using same⟩
  | [], w :: ws => exact absurd same.symm items_ne_close
  | v :: vs, [] => exact absurd same items_ne_close
  | v :: vs, w :: ws =>
    simp only [renderItems, List.append_assoc, List.append_cancel_left_eq] at same
    obtain ⟨item, rest⟩ := render_append_inj v w (stops_items _ _) (stops_items _ _) same
    obtain ⟨others, rests⟩ := renderItems_append_inj vs ws false rest
    exact ⟨by rw [item, others], rests⟩

theorem renderFields_append_inj (vs ws : List (String × Json)) (first : Bool) {r s : List Char}
    (same : renderFields first vs ++ '}' :: r = renderFields first ws ++ '}' :: s) : vs = ws ∧ r = s := by
  match vs, ws with
  | [], [] => exact ⟨rfl, by simpa [renderFields] using same⟩
  | [], w :: ws => exact absurd same.symm fields_ne_close
  | v :: vs, [] => exact absurd same fields_ne_close
  | (name, v) :: vs, (other, w) :: ws =>
    simp only [renderFields, List.append_assoc, List.append_cancel_left_eq] at same
    obtain ⟨names, rest⟩ := quoted_append_inj same
    simp only [List.cons_append, List.append_assoc, List.cons.injEq, true_and] at rest
    obtain ⟨value, rest⟩ := render_append_inj v w (stops_fields _ _) (stops_fields _ _) rest
    obtain ⟨others, rests⟩ := renderFields_append_inj vs ws false rest
    exact ⟨by rw [names, value, others], rests⟩

end

/-- A field is found under its name when no two fields share one. -/
theorem lookup_eq_some {fields : List (String × Json)} {name : String} {value : Json}
    (distinct : (fields.map Prod.fst).Nodup) : fields.lookup name = some value ↔ (name, value) ∈ fields := by
  induction fields with
  | nil => simp
  | cons field rest ih =>
    obtain ⟨key, stored⟩ := field
    rw [List.map_cons, List.nodup_cons] at distinct
    rw [List.lookup_cons, List.mem_cons, Prod.mk.injEq]
    by_cases here : name = key
    · subst here
      have absent : (name, value) ∉ rest := fun member => distinct.1 (List.mem_map.mpr ⟨_, member, rfl⟩)
      simp [absent, eq_comm]
    · have differs : (name == key) = false := by simpa using here
      simp [differs, here, ih distinct.2]

/-- Two objects are equal exactly when every name has the same value in both. -/
theorem object_inj {first second : List (String × Json)} (distinctFirst : (first.map Prod.fst).Nodup)
    (distinctSecond : (second.map Prod.fst).Nodup) (same : object first = object second) (name : String) :
    first.lookup name = second.lookup name := by
  have sorted := Json.obj.inj same
  have swap : first.Perm second :=
    (List.mergeSort_perm first _).symm.trans (by rw [sorted]; exact List.mergeSort_perm second _)
  apply Option.ext
  intro value
  rw [lookup_eq_some distinctFirst, lookup_eq_some distinctSecond, swap.mem_iff]

theorem lookup_absent {fields : List (String × Json)} {name : String} (absent : name ∉ fields.map Prod.fst) :
    fields.lookup name = none := by
  rw [List.lookup_eq_none_iff]
  intro field member
  have other : name ≠ field.1 := fun equal => absent (equal ▸ List.mem_map_of_mem member)
  simpa using other

theorem fields_eq_of_lookup {first second : List (String × Json)} (names : first.map Prod.fst = second.map Prod.fst)
    (distinct : (first.map Prod.fst).Nodup) (same : ∀ name, first.lookup name = second.lookup name) :
    first = second := by
  induction first generalizing second with
  | nil =>
    rw [List.map_nil] at names
    exact (List.map_eq_nil_iff.mp names.symm).symm
  | cons field rest ih =>
    obtain ⟨name, value⟩ := field
    cases second with
    | nil => cases names
    | cons other others =>
      obtain ⟨name', value'⟩ := other
      simp only [List.map_cons, List.cons.injEq] at names
      obtain ⟨rfl, names⟩ := names
      rw [List.map_cons, List.nodup_cons] at distinct
      have here := same name
      have tail : rest = others := by
        apply ih names distinct.2
        intro key
        by_cases first : key = name
        · -- the name of the head occurs in neither tail
          subst first
          rw [lookup_absent distinct.1, lookup_absent (names ▸ distinct.1)]
        · have there := same key
          have differs : (key == name) = false := by simpa using first
          simpa [List.lookup_cons, differs] using there
      have head : value = value' := by simpa [List.lookup_cons] using here
      rw [head, tail]

/-- Objects with the same names, listed in the same order, have the same fields. -/
theorem object_fields_inj {first second : List (String × Json)} (same : object first = object second)
    (names : first.map Prod.fst = second.map Prod.fst) (distinct : (first.map Prod.fst).Nodup) : first = second :=
  fields_eq_of_lookup names distinct (object_inj distinct (names ▸ distinct) same)

@[simp] theorem lookup_optional (name key : String) (value : Option Json) :
    (optional name value).lookup key = if key = name then value else none := by
  cases value with
  | none => simp [optional]
  | some value =>
    by_cases here : key = name
    · simp [optional, here]
    · have differs : (key == name) = false := by simpa using here
      simp [optional, List.lookup, here, differs]

theorem optional_names (name : String) (value : Option Json) : ((optional name value).map Prod.fst).Sublist [name] := by
  cases value with
  | none => exact List.nil_sublist _
  | some value => exact List.Sublist.refl _

/-- The same with one optional field in the middle. -/
theorem object_optional_inj {before before' after after' : List (String × Json)} {name : String}
    {value value' : Option Json}
    (same : object (before ++ optional name value ++ after) = object (before' ++ optional name value' ++ after'))
    (namesBefore : before.map Prod.fst = before'.map Prod.fst) (namesAfter : after.map Prod.fst = after'.map Prod.fst)
    (distinct : (before.map Prod.fst ++ ([name] ++ after.map Prod.fst)).Nodup) :
    before = before' ∧ value = value' ∧ after = after' := by
  have nodup : ∀ {first last : List (String × Json)} (middle : Option Json), first.map Prod.fst = before.map Prod.fst →
      last.map Prod.fst = after.map Prod.fst → ((first ++ optional name middle ++ last).map Prod.fst).Nodup := by
    intro first last middle namesFirst namesLast
    rw [List.map_append, List.map_append, namesFirst, namesLast, List.append_assoc]
    exact distinct.sublist ((List.Sublist.refl _).append ((optional_names name middle).append (List.Sublist.refl _)))
  have absentBefore : name ∉ before.map Prod.fst := by
    intro member
    exact (List.nodup_append.mp distinct).2.2 name member name (by simp) rfl
  have absentAfter : name ∉ after.map Prod.fst := by
    have tail := (List.nodup_append.mp distinct).2.1
    exact (List.nodup_cons.mp tail).1
  have values : value = value' := by
    have here := object_inj (nodup value rfl rfl) (nodup value' namesBefore.symm namesAfter.symm) same name
    simpa [List.lookup_append, lookup_absent absentBefore, lookup_absent absentAfter, lookup_absent (namesBefore ▸ absentBefore),
      lookup_absent (namesAfter ▸ absentAfter)] using here
  subst values
  have fields := object_fields_inj same (by simp [namesBefore, namesAfter]) (nodup value rfl rfl)
  have lengths : before.length = before'.length := by simpa using congrArg List.length namesBefore
  rw [List.append_assoc, List.append_assoc] at fields
  obtain ⟨first, rest⟩ := List.append_inj fields lengths
  exact ⟨first, rfl, List.append_cancel_left rest⟩

/-- The same with the optional field at the end. -/
theorem object_optional_last_inj {before before' : List (String × Json)} {name : String} {value value' : Option Json}
    (same : object (before ++ optional name value) = object (before' ++ optional name value'))
    (names : before.map Prod.fst = before'.map Prod.fst) (distinct : (before.map Prod.fst ++ [name]).Nodup) :
    before = before' ∧ value = value' := by
  rw [← List.append_nil (before ++ _), ← List.append_nil (before' ++ _)] at same
  obtain ⟨fields, values, -⟩ := object_optional_inj same names rfl (by simpa using distinct)
  exact ⟨fields, values⟩

end CanonicalJson
