import AgentBash.OpenCode.Routing

/-!
# Values that the expression cuts whole

What `assignment`, the expression of `stripReservedSpoolerAssignmentsForShellRouting`, matches, said
of the text: a name, its sign, a value that stands in quotes or holds no white space, and all the
white space behind it.
-/

set_option autoImplicit false

namespace AgentBash.OpenCode

/-- What stands between double quotes. A backslash quotes the character behind it. -/
inductive Inner : List Char → Prop
  | nil : Inner []
  | plain {character rest} (quote : character ≠ '"') (escape : character ≠ '\\')
      (more : Inner rest) : Inner (character :: rest)
  | escaped {character rest} (stays : lineTerminator character = false) (more : Inner rest) :
      Inner ('\\' :: character :: rest)

inductive Quoted : List Char → Prop
  | double {inner} (inside : Inner inner) : Quoted ('"' :: (inner ++ ['"']))
  | single {inner} (inside : '\'' ∉ inner) : Quoted ('\'' :: (inner ++ ['\'']))

/-- The quotes that the text begins with go on behind the value, up to other white space. -/
def Reaches (value after : List Char) : Prop :=
  ∃ quoted rest, value ++ after = quoted ++ rest ∧ Quoted quoted ∧ value.length < quoted.length ∧
    rest.head?.any space = true

inductive ValueForm (after : List Char) : List Char → Prop
  | quoted {value} (quotes : Quoted value) : ValueForm after value
  | solid {value} (dark : ∀ character ∈ value, space character = false)
      (closed : ¬Reaches value after) : ValueForm after value

/-- All the white space that stands in front of a text. -/
structure WhiteBefore (behind white : List Char) : Prop where
  some_ : white ≠ []
  white : ∀ character ∈ white, space character = true
  dark : behind.head?.any space = false

structure Named (name : List Char) : Prop where
  starts : name.head?.any letter = true
  goes : ∀ character ∈ name, nameCharacter character = true

/-- So many characters of the text are an assignment to the name, in a form that the expression cuts
whole, with the white space behind it. -/
def Whole (name text : List Char) (length : Nat) : Prop :=
  Named name ∧ ∃ value white behind, text = name ++ '=' :: (value ++ (white ++ behind)) ∧
    ValueForm (white ++ behind) value ∧ WhiteBefore behind white ∧
    length = name.length + 1 + (value.length + white.length)

section Quotes

variable {text quoted rest : List Char} {length : Nat}

theorem doubleQuoted_inner {inner : List Char} (inside : Inner inner) (rest : List Char) :
    doubleQuoted (inner ++ '"' :: rest) = some (inner.length + 1) := by
  induction inside with
  | nil => simp [doubleQuoted.eq_def]
  | plain quote escape more ih =>
    rw [List.cons_append, doubleQuoted.eq_def]
    simp [quote, escape, ih]
  | escaped stays more ih => simp [doubleQuoted, stays, ih]

theorem inner_of_doubleQuoted (found : doubleQuoted text = some length) :
    ∃ inner rest, text = inner ++ '"' :: rest ∧ Inner inner ∧ length = inner.length + 1 := by
  fun_induction doubleQuoted text generalizing length with
  | case1 => cases found
  | case2 rest => exact ⟨[], rest, rfl, .nil, (Option.some.inj found).symm⟩
  | case3 => cases found
  | case4 => cases found
  | case5 next rest stays _ ih =>
    obtain ⟨count, reads, rfl⟩ := Option.map_eq_some_iff.mp found
    obtain ⟨inner, more, rfl, inside, rfl⟩ := ih reads
    exact ⟨'\\' :: next :: inner, more, rfl, .escaped (Bool.eq_false_iff.mpr stays) inside, rfl⟩
  | case6 character rest quote escape ih =>
    obtain ⟨count, reads, rfl⟩ := Option.map_eq_some_iff.mp found
    obtain ⟨inner, more, rfl, inside, rfl⟩ := ih reads
    exact ⟨character :: inner, more, rfl, .plain quote escape inside, rfl⟩

theorem singleQuoted_inner {inner : List Char} (inside : '\'' ∉ inner) (rest : List Char) :
    singleQuoted (inner ++ '\'' :: rest) = some (inner.length + 1) := by
  induction inner with
  | nil => simp [singleQuoted]
  | cons character inner ih =>
    obtain ⟨other, inside⟩ := not_or.mp (List.mem_cons.not.mp inside)
    simp [singleQuoted, Ne.symm other, ih inside]

theorem inner_of_singleQuoted (found : singleQuoted text = some length) :
    ∃ inner rest, text = inner ++ '\'' :: rest ∧ '\'' ∉ inner ∧ length = inner.length + 1 := by
  fun_induction singleQuoted text generalizing length with
  | case1 => cases found
  | case2 rest => exact ⟨[], rest, rfl, List.not_mem_nil, (Option.some.inj found).symm⟩
  | case3 character rest other ih =>
    obtain ⟨count, reads, rfl⟩ := Option.map_eq_some_iff.mp found
    obtain ⟨inner, more, rfl, inside, rfl⟩ := ih reads
    exact ⟨character :: inner, more, rfl, List.not_mem_cons_of_ne_of_not_mem (Ne.symm other) inside,
      rfl⟩

theorem quotedValue_quoted (quotes : Quoted quoted) (rest : List Char) :
    quotedValue (quoted ++ rest) = some quoted.length := by
  cases quotes with
  | @double inner inside =>
    have reads := doubleQuoted_inner inside rest
    simp [quotedValue, reads]
  | @single inner inside =>
    have reads := singleQuoted_inner inside rest
    simp [quotedValue, reads]

theorem quoted_of_quotedValue (found : quotedValue text = some length) :
    ∃ quoted rest, text = quoted ++ rest ∧ Quoted quoted ∧ length = quoted.length := by
  cases text with
  | nil => cases found
  | cons character text =>
    rw [quotedValue] at found
    by_cases double : character = '"'
    · rw [if_pos double] at found
      obtain ⟨count, reads, rfl⟩ := Option.map_eq_some_iff.mp found
      obtain ⟨inner, rest, rfl, inside, rfl⟩ := inner_of_doubleQuoted reads
      exact ⟨'"' :: (inner ++ ['"']), rest, by simp [double], .double inside, by simp⟩
    · rw [if_neg double, Option.ite_none_right_eq_some] at found
      obtain ⟨single, found⟩ := found
      obtain ⟨count, reads, rfl⟩ := Option.map_eq_some_iff.mp found
      obtain ⟨inner, rest, rfl, inside, rfl⟩ := inner_of_singleQuoted reads
      exact ⟨'\'' :: (inner ++ ['\'']), rest, by simp [single], .single inside, by simp⟩

end Quotes

section White

variable {front white behind text : List Char} {length total : Nat}

theorem takeWhile_white (before : WhiteBefore behind white) :
    (white ++ behind).takeWhile space = white := by
  have none_ : behind.takeWhile space = [] := by
    cases behind with
    | nil => rfl
    | cons character behind => exact List.takeWhile_cons_of_neg (Bool.eq_false_iff.mp before.dark)
  rw [List.takeWhile_append_of_pos before.white, none_, List.append_nil]

theorem thenSpace_white (before : WhiteBefore behind white) (front : List Char) :
    thenSpace (front ++ (white ++ behind)) front.length = some (front.length + white.length) := by
  have some_ : white.length ≠ 0 := fun none_ => before.some_ (List.eq_nil_of_length_eq_zero none_)
  rw [thenSpace, List.drop_left, takeWhile_white before, if_neg some_]

theorem white_of_thenSpace (found : thenSpace (front ++ text) front.length = some total) :
    ∃ white behind, text = white ++ behind ∧ WhiteBefore behind white ∧
      total = front.length + white.length := by
  rw [thenSpace, List.drop_left, Option.ite_none_left_eq_some, Option.some.injEq] at found
  obtain ⟨some_, rfl⟩ := found
  refine ⟨text.takeWhile space, text.dropWhile space, List.takeWhile_append_dropWhile.symm,
    ⟨fun none_ => some_ (by rw [none_]; rfl), fun _ => List.mem_takeWhile_imp, ?_⟩, rfl⟩
  have stops := List.head?_dropWhile_not space text
  cases first : (text.dropWhile space).head? with
  | none => rfl
  | some character =>
    rw [first] at stops
    exact stops

end White

section Values

variable {value white behind text name : List Char} {length : Nat}

theorem takeWhile_dark (dark : ∀ character ∈ value, space character = false)
    (before : WhiteBefore behind white) :
    (value ++ (white ++ behind)).takeWhile (!space ·) = value := by
  obtain ⟨first, rest, rfl⟩ := List.exists_cons_of_ne_nil before.some_
  have stops : ((first :: rest) ++ behind).takeWhile (!space ·) = [] :=
    List.takeWhile_cons_of_neg (by simp [before.white first List.mem_cons_self])
  rw [List.takeWhile_append_of_pos fun character inside => by simp [dark character inside], stops,
    List.append_nil]

/-- Quotes at the front of a value without white space: if white space follows them, they are the
value itself. -/
theorem quotes_of_solid {quoted rest : List Char}
    (dark : ∀ character ∈ value, space character = false) (closed : ¬Reaches value behind)
    (split : value ++ behind = quoted ++ rest) (quotes : Quoted quoted)
    (spaced : rest.head?.any space = true) : quoted = value := by
  have within : quoted.length ≤ value.length := Nat.le_of_not_lt fun beyond =>
    closed ⟨quoted, rest, split, quotes, beyond, spaced⟩
  obtain ⟨more, rfl⟩ : quoted <+: value :=
    List.prefix_of_prefix_length_le ⟨rest, split.symm⟩ (List.prefix_append value behind) within
  rw [List.append_assoc, List.append_cancel_left_eq] at split
  cases more with
  | nil => exact (List.append_nil quoted).symm
  | cons character more =>
    rw [← split, List.cons_append, List.head?_cons, Option.any_some,
      dark character (List.mem_append_right _ List.mem_cons_self)] at spaced
    cases spaced

theorem assignedValue_form (form : ValueForm (white ++ behind) value)
    (before : WhiteBefore behind white) :
    assignedValue (value ++ (white ++ behind)) = some (value.length + white.length) := by
  cases form with
  | quoted quotes =>
    rw [assignedValue, quotedValue_quoted quotes, Option.bind_some, thenSpace_white before]
    rfl
  | solid dark closed =>
    rw [assignedValue]
    cases reads : (quotedValue (value ++ (white ++ behind))).bind
        (thenSpace (value ++ (white ++ behind))) with
    | none => rw [takeWhile_dark dark before, thenSpace_white before]; rfl
    | some total =>
      obtain ⟨length, opens, found⟩ := Option.bind_eq_some_iff.mp reads
      obtain ⟨quoted, rest, split, quotes, rfl⟩ := quoted_of_quotedValue opens
      rw [split] at found
      obtain ⟨other, _, rfl, otherBefore, rfl⟩ := white_of_thenSpace found
      obtain ⟨first, otherRest, rfl⟩ := List.exists_cons_of_ne_nil otherBefore.some_
      obtain rfl := quotes_of_solid dark closed split quotes
        (otherBefore.white first List.mem_cons_self)
      have same := congrArg (List.takeWhile space) (List.append_cancel_left split)
      rw [takeWhile_white before, takeWhile_white otherBefore] at same
      rw [same]
      rfl

theorem form_of_assignedValue (found : assignedValue text = some length) :
    ∃ value white behind, text = value ++ (white ++ behind) ∧
      ValueForm (white ++ behind) value ∧ WhiteBefore behind white ∧
      length = value.length + white.length := by
  rw [assignedValue] at found
  cases reads : (quotedValue text).bind (thenSpace text) with
  | some total =>
    rw [reads] at found
    obtain rfl : total = length := Option.some.inj found
    obtain ⟨count, opens, found⟩ := Option.bind_eq_some_iff.mp reads
    obtain ⟨quoted, rest, rfl, quotes, rfl⟩ := quoted_of_quotedValue opens
    obtain ⟨white, behind, rfl, before, rfl⟩ := white_of_thenSpace found
    exact ⟨quoted, white, behind, rfl, .quoted quotes, before, rfl⟩
  | none =>
    rw [reads] at found
    have split := List.takeWhile_append_dropWhile (p := (!space ·)) (l := text)
    have dark : ∀ character ∈ text.takeWhile (!space ·), space character = false :=
      fun character inside => by simpa using List.mem_takeWhile_imp inside
    generalize text.takeWhile (!space ·) = value at *
    generalize text.dropWhile (!space ·) = rest at *
    subst split
    obtain ⟨white, behind, rfl, before, rfl⟩ := white_of_thenSpace found
    refine ⟨value, white, behind, rfl, .solid dark ?_, before, rfl⟩
    rintro ⟨quoted, rest, split, quotes, -, spaced⟩
    have white : (rest.takeWhile space).length ≠ 0 := by
      cases rest with
      | nil => cases spaced
      | cons first rest =>
        have stays : space first = true := spaced
        rw [List.takeWhile_cons_of_pos stays]
        exact Nat.succ_ne_zero _
    rw [split, quotedValue_quoted quotes, Option.bind_some, thenSpace, List.drop_left,
      if_neg white] at reads
    cases reads

theorem assignedName_named (named : Named name) (rest : List Char) :
    assignedName (name ++ '=' :: rest) = some name := by
  have stops : ('=' :: rest).takeWhile nameCharacter = [] :=
    List.takeWhile_cons_of_neg (by decide)
  have taken : (name ++ '=' :: rest).takeWhile nameCharacter = name := by
    rw [List.takeWhile_append_of_pos named.goes, stops, List.append_nil]
  have sign : (name ++ '=' :: rest)[name.length]? = some '=' := by
    rw [List.getElem?_append_right (Nat.le_refl _), Nat.sub_self]
    rfl
  simp only [assignedName, taken, sign, named.starts, decide_true, Bool.and_self, if_true]

theorem named_of_assignedName (assigns : assignedName text = some name) : Named name :=
  have ⟨_, _, starts, goes⟩ := assignedName_eq_some assigns
  ⟨starts, goes⟩

theorem matchAssignment_iff_whole :
    matchAssignment text = some (name, length) ↔ Whole name text length := by
  have behind (name rest : List Char) : (name ++ '=' :: rest).drop (name.length + 1) = rest := by
    rw [← List.drop_drop, List.drop_left]
    rfl
  constructor
  · intro found
    simp only [matchAssignment, Option.bind_eq_some_iff, Option.map_eq_some_iff,
      Prod.mk.injEq] at found
    obtain ⟨name, assigns, total, reads, rfl, rfl⟩ := found
    obtain ⟨rest, rfl, -⟩ := assignedName_eq_some assigns
    rw [behind] at reads
    obtain ⟨value, white, after, rfl, form, before, rfl⟩ := form_of_assignedValue reads
    exact ⟨named_of_assignedName assigns, value, white, after, rfl, form, before, rfl⟩
  · rintro ⟨named, value, white, after, rfl, form, before, rfl⟩
    rw [matchAssignment, assignedName_named named, Option.bind_some, behind,
      assignedValue_form form before]
    rfl

end Values

end AgentBash.OpenCode
