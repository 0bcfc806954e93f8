import ClientTransaction.Json.Reader
import ClientTransaction.Json.Text
import Mathlib.Data.List.Forall2

/-!
# Json.Writing — what is written is read back

A written text starts with a character of its own and is read as its value whatever comes after it.
Arrays and objects are put together from such texts, so it is enough to look at one item or entry at
a time.
-/

namespace ClientTransaction.Json

/-! ## Strings -/

/-- The controls below the space that have no short escape are written by their numbers. -/
theorem hexUnit?_hexPair {n : Nat} (h : n < 0x20) :
    hexUnit? '0' '0' (Nat.digitChar (n / 16)) (Nat.digitChar (n % 16)) = some n ∧
      isHighSurrogate n = false ∧ isLowSurrogate n = false := by
  revert n
  decide

/-- Every character is read back from its spelling. -/
theorem readStringTail_escapeChar (c : Char) (collected rest : List Char) :
    readStringTail true collected (escapeChar c ++ rest) =
      readStringTail true (c :: collected) rest := by
  unfold escapeChar
  split
  · rfl
  · rfl
  · rfl
  · rfl
  · rfl
  · rfl
  · rfl
  next hquote hslash _ _ _ _ _ =>
    split
    next hcontrol =>
      obtain ⟨hunit, hhigh, hlow⟩ := hexUnit?_hexPair hcontrol
      have hback : Char.ofNat c.toNat = c := Char.ofNat_toNat c
      simp only [List.cons_append, hexPair, List.nil_append]
      rw [readStringTail]
      simp [hunit, hhigh, hlow, hback]
    next hplain =>
      have hread : ¬ (c = '\\' ∨ c.toNat < 0x20) := not_or.2 ⟨hslash, hplain⟩
      simp only [List.cons_append, List.nil_append]
      rw [readStringTail.eq_def]
      split
      · simp_all
      · simp_all
      · simp_all
      next heq =>
        obtain ⟨rfl, rfl⟩ := List.cons.inj heq
        exact if_neg hread
      · simp_all

/-- The characters of a text are read up to the closing quote. -/
theorem readStringTail_escaped (chars collected rest : List Char) :
    readStringTail true collected (chars.flatMap escapeChar ++ '"' :: rest) =
      some (some (String.ofList (collected.reverse ++ chars)), rest) := by
  induction chars generalizing collected with
  | nil => simp [readStringTail]
  | cons c chars ih =>
      calc
        readStringTail true collected ((c :: chars).flatMap escapeChar ++ '"' :: rest)
            = readStringTail true (c :: collected) (chars.flatMap escapeChar ++ '"' :: rest) := by
              simp [readStringTail_escapeChar]
        _ = some (some (String.ofList (collected.reverse ++ c :: chars)), rest) := by
              simp [ih]

theorem toList_writeString (s : String) (rest : List Char) :
    (writeString s).toList ++ rest = '"' :: (s.toList.flatMap escapeChar ++ '"' :: rest) := by
  simp [writeString]

/-! ## Values -/

/-- The text is read as the value, whatever comes after it. -/
structure Spells (text : String) (value : Json) : Prop where
  /-- It starts neither with a blank nor like the end of an array. -/
  start : ∃ c rest, text.toList = c :: rest ∧ isBlank c = false ∧ c ≠ ']'
  read : ∀ fuel rest, 2 * text.toList.length < fuel →
    readValue fuel (text.toList ++ rest) = some (value, rest)

/-- Blanks are skipped before a text of which none is a blank. -/
theorem skipBlanks_cons {c : Char} (h : isBlank c = false) (rest : List Char) :
    skipBlanks (c :: rest) = c :: rest := by
  simp [skipBlanks, h]

/-- A text is all that is read of it. -/
theorem Spells.read? {text : String} {value : Json} (h : Spells text value) :
    Json.read? text = some value := by
  have hread := h.read (2 * text.toList.length + 2) [] (by omega)
  rw [List.append_nil] at hread
  simp [Json.read?, hread, skipBlanks]

theorem spells_writeString (s : String) : Spells (writeString s) (.string (some s)) where
  start := ⟨'"', _, by simpa using toList_writeString s [], by decide, by decide⟩
  read := by
    intro fuel rest hfuel
    obtain ⟨fuel, rfl⟩ : ∃ n, fuel = n + 1 := ⟨fuel - 1, by omega⟩
    have hquote : isBlank '"' = false := by decide
    rw [toList_writeString, readValue, skipBlanks_cons hquote]
    simp [readStringTail_escaped]

/-! ## Arrays and objects -/

/-- The characters of parts between commas. -/
def joined (texts : List String) : List Char :=
  (",".intercalate texts).toList

theorem joined_singleton (text : String) : joined [text] = text.toList := by
  simp [joined]

theorem joined_cons_cons (text next : String) (texts : List String) :
    joined (text :: next :: texts) = text.toList ++ ',' :: joined (next :: texts) := by
  simp [joined]

theorem toList_writeArray (texts : List String) (rest : List Char) :
    (writeArray texts).toList ++ rest = '[' :: (joined texts ++ ']' :: rest) := by
  simp [writeArray, joined]

theorem skipBlanks_comma (rest : List Char) : skipBlanks (',' :: rest) = ',' :: rest :=
  skipBlanks_cons (by decide) rest

theorem skipBlanks_bracket (rest : List Char) : skipBlanks (']' :: rest) = ']' :: rest :=
  skipBlanks_cons (by decide) rest

theorem skipBlanks_brace (rest : List Char) : skipBlanks ('\x7d' :: rest) = '\x7d' :: rest :=
  skipBlanks_cons (by decide) rest

theorem readItems_joined {texts : List String} {values : List Json}
    (h : List.Forall₂ Spells texts values) (hne : texts ≠ []) (items : List Json) (fuel : Nat)
    (hfuel : 2 * (joined texts).length + 1 < fuel) (rest : List Char) :
    readItems fuel items (joined texts ++ ']' :: rest) =
      some (.array (items.reverse ++ values), rest) := by
  -- Each item is read with one call less, and its comma makes up for it.
  induction h generalizing items fuel with
  | nil => exact absurd rfl hne
  | @cons text value texts values hspells hrest ih =>
      obtain ⟨fuel, rfl⟩ : ∃ n, fuel = n + 1 := ⟨fuel - 1, by omega⟩
      rcases texts with _ | ⟨next, texts⟩
      · obtain rfl := List.forall₂_nil_left_iff.1 hrest
        rw [joined_singleton] at hfuel ⊢
        rw [readItems, hspells.read fuel _ (by omega)]
        simp [skipBlanks_bracket]
      · rw [joined_cons_cons] at hfuel ⊢
        simp only [List.length_append, List.length_cons] at hfuel
        have hlater := ih (by simp) (value :: items) fuel (by omega)
        rw [readItems, List.append_assoc, hspells.read fuel _ (by omega)]
        simp [skipBlanks_comma, hlater]

theorem spells_writeArray {texts : List String} {values : List Json}
    (h : List.Forall₂ Spells texts values) : Spells (writeArray texts) (.array values) where
  start := ⟨'[', _, by simpa using toList_writeArray texts [], by decide, by decide⟩
  read := by
    intro fuel rest hfuel
    have hlength : (writeArray texts).toList.length = (joined texts).length + 2 := by
      simpa using congrArg List.length (toList_writeArray texts [])
    obtain ⟨fuel, rfl⟩ : ∃ n, fuel = n + 1 := ⟨fuel - 1, by omega⟩
    have hopen : isBlank '[' = false := by decide
    rw [toList_writeArray, readValue, skipBlanks_cons hopen]
    cases h with
    | nil => simp [joined, skipBlanks_bracket]
    | @cons text value texts values hspells hrest =>
        have hitems := readItems_joined (.cons hspells hrest) (by simp) [] fuel
          (by omega) rest
        -- The first item does not look like the end of the array.
        obtain ⟨c, later, hstart, hblank, hclose⟩ := hspells.start
        obtain ⟨tail, htail⟩ : ∃ tail, joined (text :: texts) = c :: tail := by
          rcases texts with _ | ⟨next, texts⟩
          · exact ⟨later, by rw [joined_singleton, hstart]⟩
          · exact ⟨later ++ ',' :: joined (next :: texts), by
              rw [joined_cons_cons, hstart, List.cons_append]⟩
        rw [htail, List.cons_append] at hitems ⊢
        simp [skipBlanks_cons hblank, hclose, hitems]

/-- An entry and what it is read as: its key, and a value that its text spells. -/
structure SpellsEntry (entry : String × String) (value : Option String × Json) : Prop where
  key : value.1 = some entry.1
  value : Spells entry.2 value.2

theorem toList_entry (key text : String) (rest : List Char) :
    (writeString key ++ ":" ++ text).toList ++ rest =
      '"' :: (key.toList.flatMap escapeChar ++ '"' :: ':' :: (text.toList ++ rest)) := by
  simp [writeString]

/-- The written entries of an object. -/
def writeEntries (entries : List (String × String)) : List String :=
  entries.map fun (k, v) => writeString k ++ ":" ++ v

theorem toList_writeObject (entries : List (String × String)) (rest : List Char) :
    (writeObject entries).toList ++ rest =
      '\x7b' :: (joined (writeEntries entries) ++ '\x7d' :: rest) := by
  simp [writeObject, joined, writeEntries]

theorem readEntries_joined {entries : List (String × String)}
    {values : List (Option String × Json)} (h : List.Forall₂ SpellsEntry entries values)
    (hne : entries ≠ []) (found : List (Option String × Json)) (fuel : Nat)
    (hfuel : 2 * (joined (writeEntries entries)).length < fuel) (rest : List Char) :
    readEntries fuel found (joined (writeEntries entries) ++ '\x7d' :: rest) =
      some (.object (found.reverse ++ values), rest) := by
  have hquote (cs : List Char) : skipBlanks ('"' :: cs) = '"' :: cs :=
    skipBlanks_cons (by decide) cs
  have hcolon (cs : List Char) : skipBlanks (':' :: cs) = ':' :: cs :=
    skipBlanks_cons (by decide) cs
  induction h generalizing found fuel with
  | nil => exact absurd rfl hne
  | @cons entry value entries values hspells hrest ih =>
      obtain ⟨key, text⟩ := entry
      obtain ⟨key', value⟩ := value
      obtain rfl : key' = some key := hspells.key
      have hvalue : Spells text value := hspells.value
      have hlength : (writeString key ++ ":" ++ text).toList.length =
          (key.toList.flatMap escapeChar).length + text.toList.length + 3 := by
        have hsplit := congrArg List.length (toList_entry key text [])
        simp only [List.append_nil, List.length_cons, List.length_append] at hsplit
        omega
      obtain ⟨fuel, rfl⟩ : ∃ n, fuel = n + 1 := ⟨fuel - 1, by omega⟩
      rcases entries with _ | ⟨next, entries⟩
      · obtain rfl := List.forall₂_nil_left_iff.1 hrest
        have hjoined : joined (writeEntries [(key, text)]) =
            (writeString key ++ ":" ++ text).toList := joined_singleton _
        rw [hjoined] at hfuel ⊢
        rw [toList_entry, readEntries, hquote]
        simp [readStringTail_escaped, hcolon, hvalue.read fuel _ (by omega),
          skipBlanks_brace]
      · have hjoined : joined (writeEntries ((key, text) :: next :: entries)) =
            (writeString key ++ ":" ++ text).toList ++
              ',' :: joined (writeEntries (next :: entries)) := joined_cons_cons _ _ _
        rw [hjoined] at hfuel ⊢
        simp only [List.length_append, List.length_cons] at hfuel
        have hlater := ih (by simp) ((some key, value) :: found) fuel (by omega)
        rw [List.append_assoc, toList_entry, readEntries, hquote]
        simp [readStringTail_escaped, hcolon, hvalue.read fuel _ (by omega),
          skipBlanks_comma, hlater]

theorem spells_writeObject {entries : List (String × String)}
    {values : List (Option String × Json)} (h : List.Forall₂ SpellsEntry entries values) :
    Spells (writeObject entries) (.object values) where
  start := ⟨'\x7b', _, by simpa using toList_writeObject entries [], by decide, by decide⟩
  read := by
    intro fuel rest hfuel
    have hlength :
        (writeObject entries).toList.length = (joined (writeEntries entries)).length + 2 := by
      simpa using congrArg List.length (toList_writeObject entries [])
    obtain ⟨fuel, rfl⟩ : ∃ n, fuel = n + 1 := ⟨fuel - 1, by omega⟩
    have hopen : isBlank '\x7b' = false := by decide
    rw [toList_writeObject, readValue, skipBlanks_cons hopen]
    cases h with
    | nil => simp [joined, writeEntries, skipBlanks_brace]
    | @cons entry value entries values hspells hrest =>
        have hentries := readEntries_joined (.cons hspells hrest) (by simp) [] fuel
          (by omega) rest
        -- The first entry starts with the quote of its key.
        obtain ⟨tail, htail⟩ :
            ∃ tail, joined (writeEntries (entry :: entries)) = '"' :: tail := by
          rcases entries with _ | ⟨next, entries⟩
          · exact ⟨_, (joined_singleton _).trans (by simpa using toList_entry entry.1 entry.2 [])⟩
          · exact ⟨_, (joined_cons_cons _ _ _).trans (toList_entry entry.1 entry.2 _)⟩
        have hquote : isBlank '"' = false := by decide
        rw [htail, List.cons_append] at hentries ⊢
        simp [skipBlanks_cons hquote, hentries]

end ClientTransaction.Json
