import ClientTransaction.Config
import Mathlib.Data.Nat.Digits.Defs
import Mathlib.Data.List.Induction
import Mathlib.Order.Lattice.Nat
import Mathlib.Order.WithBot
import Mathlib.Tactic.Ring

/-!
# Bookmark.Newest — which value stands for a bookmark

A value that a server hands out is the prefix `neo4j:bookmark:v1:tx` and the number of the
transaction, and of two such values the one with the greater number is the later one. The newest
value of a bookmark is therefore the last of those with the greatest number, and only where no value
has a number that can be read does the first value stand for all of them.

The number of the newest value joins the numbers of all values, no number being the least: it does
not depend on their order, and two bookmarks put together have the greater of the two numbers.
-/

namespace ClientTransaction

namespace Bookmark

/-! ## Numbers as they are written -/

/-- A value that spells `n`: the prefix, a plus sign or none, and decimal digits, of which leading
ones may be zero. -/
structure Numbered (value : String) (n : Nat) : Prop where
  spelt : ∃ sign ∈ ["", "+"], ∃ digits ≠ [], (∀ d ∈ digits, d < 10) ∧
    value = "neo4j:bookmark:v1:tx" ++ sign ++ String.ofList (digits.map Nat.digitChar) ∧
    n = Nat.ofDigits 10 digits.reverse
  small : n < 2 ^ 64

/-- What the character of a digit is. -/
theorem digitChar_of_lt {d : Nat} (h : d < 10) :
    d.digitChar.isDigit = true ∧ d.digitChar.toNat = '0'.toNat + d ∧ d.digitChar ≠ '+' := by
  revert d
  decide

/-- A digit is the character that its number is written with. -/
theorem digitChar_sub {c : Char} (h : c.isDigit = true) :
    c.toNat - '0'.toNat < 10 ∧ (c.toNat - '0'.toNat).digitChar = c := by
  have hrange : '0'.toNat ≤ c.toNat ∧ c.toNat ≤ '9'.toNat := by
    simpa [Char.isDigit, UInt32.le_iff_toNat_le] using h
  have hlt : c.toNat - '0'.toNat < 10 := by
    simp only [Char.reduceToNat] at hrange ⊢
    omega
  refine ⟨hlt, Char.toNat_inj.1 ?_⟩
  rw [(digitChar_of_lt hlt).2.1, Nat.add_sub_cancel' hrange.1]

/-- Reading digits from the left gives the positional value of the digits from the right. -/
theorem digitsValue_eq (digits : List Char) :
    digitsValue digits = Nat.ofDigits 10 (digits.map fun c => c.toNat - '0'.toNat).reverse := by
  induction digits using List.reverseRecOn with
  | nil => rfl
  | append_singleton digits c ih =>
    have hstep : digitsValue (digits ++ [c]) = digitsValue digits * 10 + (c.toNat - '0'.toNat) := by
      simp only [digitsValue, List.foldl_append, List.foldl_cons, List.foldl_nil]
    rw [hstep, ih, List.map_append, List.map_singleton, List.reverse_append, List.reverse_singleton,
      List.singleton_append, Nat.ofDigits_cons]
    push_cast
    ring

/-- The digits of a text are read back from how their numbers are written. -/
theorem map_digitChar_iff {cs : List Char} {digits : List Nat} :
    (∀ d ∈ digits, d < 10) ∧ cs = digits.map Nat.digitChar ↔
      cs.all Char.isDigit = true ∧ digits = cs.map fun c => c.toNat - '0'.toNat := by
  constructor
  · rintro ⟨hlt, rfl⟩
    refine ⟨?_, ?_⟩
    · simp only [List.all_map, List.all_eq_true]
      exact fun d hd => (digitChar_of_lt (hlt d hd)).1
    · rw [List.map_map]
      refine (List.map_id digits).symm.trans (List.map_congr_left fun d hd => ?_)
      simp [(digitChar_of_lt (hlt d hd)).2.1]
  · rintro ⟨hall, rfl⟩
    rw [List.all_eq_true] at hall
    refine ⟨?_, ?_⟩
    · simp only [List.mem_map]
      rintro d ⟨c, hc, rfl⟩
      exact (digitChar_sub (hall c hc)).1
    · rw [List.map_map]
      refine (List.map_id cs).symm.trans (List.map_congr_left fun c hc => ?_)
      exact (digitChar_sub (hall c hc)).2.symm

/-- What is read is the text after a sign, where all of it is digits. -/
theorem unsigned?_eq_some_iff {cs : List Char} {n : Nat} :
    unsigned? cs = some n ↔ ∃ sign ∈ ["", "+"], ∃ digits, cs = sign.toList ++ digits ∧
      digits ≠ [] ∧ digits.all Char.isDigit = true ∧ n = digitsValue digits ∧ n < 2 ^ 64 := by
  have hread (digits : List Char) :
      (if digits ≠ [] ∧ digits.all Char.isDigit ∧ digitsValue digits < Nat.pow 2 64 then
        some (digitsValue digits) else none) = some n ↔
        digits ≠ [] ∧ digits.all Char.isDigit = true ∧ n = digitsValue digits ∧ n < 2 ^ 64 := by
    rw [Option.ite_none_right_eq_some, Option.some.injEq, Nat.pow_eq]
    constructor
    · rintro ⟨⟨hne, hall, hlt⟩, rfl⟩
      exact ⟨hne, hall, rfl, hlt⟩
    · rintro ⟨hne, hall, rfl, hlt⟩
      exact ⟨⟨hne, hall, hlt⟩, rfl⟩
  by_cases hplus : ∃ rest, cs = '+' :: rest
  · obtain ⟨rest, rfl⟩ := hplus
    refine (hread rest).trans ⟨fun h => ⟨"+", by simp, rest, rfl, h⟩, ?_⟩
    rintro ⟨sign, hsign, digits, hcs, hne, hall, hrest⟩
    rcases (by simpa using hsign : sign = "" ∨ sign = "+") with rfl | rfl
    · -- A plus sign is no digit.
      obtain rfl : '+' :: rest = digits := hcs
      simp at hall
    · obtain rfl : rest = digits := by simpa using hcs
      exact ⟨hne, hall, hrest⟩
  · have hunsigned : unsigned? cs =
        if cs ≠ [] ∧ cs.all Char.isDigit ∧ digitsValue cs < Nat.pow 2 64 then
          some (digitsValue cs) else none := by
      simp only [unsigned?]
      split
      · exact (hplus ⟨_, rfl⟩).elim
      · rfl
    rw [hunsigned]
    refine (hread cs).trans ⟨fun h => ⟨"", by simp, cs, rfl, h⟩, ?_⟩
    rintro ⟨sign, hsign, digits, hcs, h⟩
    rcases (by simpa using hsign : sign = "" ∨ sign = "+") with rfl | rfl
    · obtain rfl : cs = digits := hcs
      exact h
    · exact (hplus ⟨digits, hcs⟩).elim

/-- The number that is read of a value is the one that the value spells. -/
theorem transactionNumber?_eq_some_iff {value : String} {n : Nat} :
    transactionNumber? value = some n ↔ Numbered value n := by
  have hstart : "neo4j:bookmark:v1:tx".toList = numberedStart := by decide
  have hvalue (rest : String) : value = "neo4j:bookmark:v1:tx" ++ rest ↔
      numberedStart <+: value.toList ∧ value.toList.drop numberedStart.length = rest.toList := by
    rw [← hstart, ← String.toList_inj, String.toList_append]
    constructor
    · intro h
      rw [h]
      exact ⟨List.prefix_append .., List.drop_left ..⟩
    · rintro ⟨⟨tail, htail⟩, hrest⟩
      rw [← hrest, ← htail, List.drop_left]
  unfold transactionNumber?
  rw [Option.ite_none_right_eq_some, List.isPrefixOf_iff_prefix, unsigned?_eq_some_iff]
  constructor
  · rintro ⟨hpre, sign, hsign, cs, hcs, hne, hall, rfl, hlt⟩
    obtain ⟨hdigits, hwritten⟩ := map_digitChar_iff.2 ⟨hall, rfl⟩
    refine ⟨⟨sign, hsign, _, by simpa using hne, hdigits, ?_, digitsValue_eq cs⟩, hlt⟩
    rw [String.append_assoc, hvalue, ← hwritten]
    exact ⟨hpre, by simpa using hcs⟩
  · rintro ⟨⟨sign, hsign, digits, hne, hdigits, hspelt, rfl⟩, hlt⟩
    rw [String.append_assoc, hvalue] at hspelt
    obtain ⟨hpre, hrest⟩ := hspelt
    obtain ⟨hall, hback⟩ := map_digitChar_iff.1 ⟨hdigits, rfl⟩
    refine ⟨hpre, sign, hsign, _, by simpa using hrest, by simpa using hne, hall, ?_, hlt⟩
    rw [digitsValue_eq, ← hback]

/-! ## The last of the greatest -/

/-- `v` spells the greatest number of the values, which is `n`, and is the last that does. -/
structure Newest (values : List String) (v : String) (n : Nat) : Prop where
  number : Numbered v n
  last : ∃ before after, values = before ++ v :: after ∧
    (∀ u ∈ before, ∀ m, Numbered u m → m ≤ n) ∧ ∀ u ∈ after, ∀ m, Numbered u m → m < n

namespace Newest

variable {values : List String} {u v : String} {m n : Nat}

theorem mem (h : Newest values v n) : v ∈ values := by
  obtain ⟨before, after, rfl, -⟩ := h.last
  simp

/-- No number of the values exceeds that of the newest. -/
theorem bound (h : Newest values v n) (hu : u ∈ values) (hm : Numbered u m) : m ≤ n := by
  obtain ⟨before, after, rfl, hbefore, hafter⟩ := h.last
  rcases List.mem_append.1 hu with hu | hu
  · exact hbefore u hu m hm
  · rcases List.mem_cons.1 hu with rfl | hu
    · rw [← transactionNumber?_eq_some_iff] at hm
      have hn := transactionNumber?_eq_some_iff.2 h.number
      exact Nat.le_of_eq (Option.some.inj (hm.symm.trans hn))
    · exact Nat.le_of_lt (hafter u hu m hm)

/-- A further value that spells no number as great leaves the newest as it is. -/
theorem append (h : Newest values v n) (hu : ∀ m, Numbered u m → m < n) :
    Newest (values ++ [u]) v n := by
  obtain ⟨before, after, rfl, hbefore, hafter⟩ := h.last
  refine ⟨h.number, before, after ++ [u], by simp, hbefore, fun w hw => ?_⟩
  rcases List.mem_append.1 hw with hw | hw
  · exact hafter w hw
  · obtain rfl := List.mem_singleton.1 hw
    exact hu

/-- A further value that spells a number at least as great as the others is the newest. -/
theorem concat (hv : Numbered v n) (h : ∀ u ∈ values, ∀ m, Numbered u m → m ≤ n) :
    Newest (values ++ [v]) v n :=
  ⟨hv, values, [], rfl, h, by simp⟩

end Newest

/-- What reading the values from the left has found: the newest of them, or that no value spells a
number. -/
theorem newestNumbered?_cases (values : List String) :
    (∃ n v, newestNumbered? values = some (n, v) ∧ Newest values v n) ∨
      newestNumbered? values = none ∧ ∀ u ∈ values, ∀ m, ¬ Numbered u m := by
  induction values using List.reverseRecOn with
  | nil => exact .inr ⟨rfl, by simp⟩
  | append_singleton values u ih =>
    unfold newestNumbered? at ih ⊢
    rw [List.foldl_append, List.foldl_cons, List.foldl_nil]
    rcases hu : transactionNumber? u with _ | k
    · have hnone (m : Nat) : ¬ Numbered u m := by
        rw [← transactionNumber?_eq_some_iff, hu]
        simp
      rcases ih with ⟨n, v, hvs, hnewest⟩ | ⟨hvs, hno⟩
      · exact .inl ⟨n, v, hvs, hnewest.append fun m hm => (hnone m hm).elim⟩
      · refine .inr ⟨hvs, fun w hw => ?_⟩
        rcases List.mem_append.1 hw with hw | hw
        · exact hno w hw
        · exact List.mem_singleton.1 hw ▸ hnone
    · have hk : Numbered u k := transactionNumber?_eq_some_iff.1 hu
      rcases ih with ⟨n, v, hvs, hnewest⟩ | ⟨hvs, hno⟩ <;> rw [hvs]
      · -- Of equal numbers the later value stands.
        by_cases hnk : n ≤ k
        · refine .inl ⟨k, u, by simp only [hnk, if_true], ?_⟩
          exact .concat hk fun w hw m hm => (hnewest.bound hw hm).trans hnk
        · refine .inl ⟨n, v, by simp only [hnk, if_false], hnewest.append fun m hm => ?_⟩
          have hm' := hu.symm.trans (transactionNumber?_eq_some_iff.2 hm)
          have := Option.some.inj hm'
          omega
      · exact .inl ⟨k, u, rfl, .concat hk fun w hw m hm => (hno w hw m hm).elim⟩

/-- The newest value is the newest of those that spell a number, or the first if none does. -/
theorem newest?_cases (b : Bookmark) :
    (∃ v n, b.newest? = some v ∧ Newest b.values v n) ∨
      (∀ u ∈ b.values, ∀ m, ¬ Numbered u m) ∧ b.newest? = b.values.head? := by
  unfold newest?
  rcases newestNumbered?_cases b.values with ⟨n, v, hvs, hnewest⟩ | ⟨hvs, hnone⟩ <;> rw [hvs]
  · exact .inl ⟨v, n, rfl, hnewest⟩
  · exact .inr ⟨hnone, rfl⟩

/-- A sign and leading zeros change no number, and of equal numbers the last value is taken. -/
example :
    newest? ⟨["neo4j:bookmark:v1:tx10", "neo4j:bookmark:v1:tx+010", "neo4j:bookmark:v1:tx9"]⟩ =
      some "neo4j:bookmark:v1:tx+010" := by
  decide

/-! ## The number of a bookmark -/

/-- The number of a value, with no number below all numbers. -/
def number (value : String) : WithBot Nat :=
  transactionNumber? value

theorem number_eq_coe_iff {value : String} {n : Nat} :
    number value = (n : WithBot Nat) ↔ Numbered value n :=
  transactionNumber?_eq_some_iff

theorem number_le_iff {value : String} {k : WithBot Nat} :
    number value ≤ k ↔ ∀ n, Numbered value n → (n : WithBot Nat) ≤ k := by
  simp only [← number_eq_coe_iff]
  rcases number value with _ | n
  · exact ⟨fun _ n h => absurd h (WithBot.bot_ne_coe), fun _ => bot_le⟩
  · exact ⟨fun h m hm => hm ▸ h, fun h => h n rfl⟩

/-- The number of the newest value. -/
def newestNumber (b : Bookmark) : WithBot Nat :=
  b.newest?.elim ⊥ number

/-- The number of the newest value is the least that no number of the values exceeds. -/
theorem newestNumber_le_iff (b : Bookmark) (k : WithBot Nat) :
    b.newestNumber ≤ k ↔ ∀ v ∈ b.values, number v ≤ k := by
  rcases newest?_cases b with ⟨v, n, hv, hnewest⟩ | ⟨hnone, hhead⟩
  · rw [newestNumber, hv, Option.elim_some]
    refine ⟨fun h u hu => ?_, fun h => h v hnewest.mem⟩
    rw [number_eq_coe_iff.2 hnewest.number] at h
    exact number_le_iff.2 fun m hm => (WithBot.coe_le_coe.2 (hnewest.bound hu hm)).trans h
  · have hbot (v : String) (hv : v ∈ b.values) (k : WithBot Nat) : number v ≤ k :=
      number_le_iff.2 fun n hn => (hnone v hv n hn).elim
    refine ⟨fun _ v hv => hbot v hv k, fun _ => ?_⟩
    rw [newestNumber, hhead]
    rcases hvs : b.values with _ | ⟨v, rest⟩
    · exact bot_le
    · exact hbot v (hvs ▸ List.mem_cons_self) k

theorem newestNumber_append (xs ys : List String) :
    newestNumber ⟨xs ++ ys⟩ = max (newestNumber ⟨xs⟩) (newestNumber ⟨ys⟩) := by
  refine eq_of_forall_ge_iff fun k => ?_
  simp only [newestNumber_le_iff, max_le_iff, List.forall_mem_append]

theorem newestNumber_perm {xs ys : List String} (h : xs.Perm ys) :
    newestNumber ⟨xs⟩ = newestNumber ⟨ys⟩ := by
  refine eq_of_forall_ge_iff fun k => ?_
  simp only [newestNumber_le_iff, h.mem_iff]

/-- How one value stands for all values of a bookmark. -/
structure Represented (b : Bookmark) : Prop where
  none_iff : b.newest? = none ↔ b.values = []
  mem : ∀ v ∈ b.newest?, v ∈ b.values
  numbered : (∃ u ∈ b.values, ∃ n, Numbered u n) → ∃ v n, b.newest? = some v ∧ Newest b.values v n
  unnumbered : (¬ ∃ u ∈ b.values, ∃ n, Numbered u n) → b.newest? = b.values.head?
  number_eq : ∀ n : Nat, b.newestNumber = n ↔ ∃ v ∈ b.newest?, Numbered v n
  append : ∀ values, newestNumber ⟨b.values ++ values⟩ = max b.newestNumber (newestNumber ⟨values⟩)
  perm : ∀ values, values.Perm b.values → newestNumber ⟨values⟩ = b.newestNumber

theorem represented (b : Bookmark) : b.Represented := by
  have hhead : b.values.head? = none ↔ b.values = [] := List.head?_eq_none_iff
  have hcases := newest?_cases b
  refine ⟨?_, ?_, ?_, ?_, fun n => ?_, newestNumber_append b.values, fun _ h => newestNumber_perm h⟩
  · rcases hcases with ⟨v, n, hv, hnewest⟩ | ⟨-, hfirst⟩
    · simp [hv, List.ne_nil_of_mem hnewest.mem]
    · rw [hfirst, hhead]
  · rintro v hv
    rcases hcases with ⟨u, n, hu, hnewest⟩ | ⟨-, hfirst⟩
    · obtain rfl : u = v := Option.some.inj (hu.symm.trans hv)
      exact hnewest.mem
    · exact List.mem_of_mem_head? (hfirst ▸ hv)
  · rintro ⟨u, hu, m, hm⟩
    exact hcases.resolve_right fun h => h.1 u hu m hm
  · intro hnone
    rcases hcases with ⟨v, n, -, hnewest⟩ | ⟨-, hfirst⟩
    · exact (hnone ⟨v, hnewest.mem, n, hnewest.number⟩).elim
    · exact hfirst
  · rw [newestNumber]
    rcases b.newest? with _ | v
    · simp
    · simp [number_eq_coe_iff]

end Bookmark

/-! ## What BEGIN is told -/

/-- What BEGIN is told of a configuration: of the bookmark the newest value and all of them, of the
mode whether it only reads, and nothing else. -/
structure Config.Tells (c : Config) (params : Params) : Prop where
  bookmark : params.get? "bookmark" = c.bookmark.newest?.map .string
  bookmarks : params.get? "bookmarks" =
    if c.bookmark.values = [] then none else some (.list (c.bookmark.values.map .string))
  listed : ∀ x, params.get? "bookmark" = some x →
    ∃ xs, params.get? "bookmarks" = some (.list xs) ∧ x ∈ xs
  mode : params.get? "mode" = if c.accessMode = .readOnly then some (.string "r") else none
  nothingElse : ∀ entry ∈ params, entry.1 ∈ ["bookmark", "bookmarks", "mode"]
  distinct : (params.map Prod.fst).Nodup

/-- BEGIN is told of a bookmark that has values by the value that stands for them. -/
theorem Config.beginParameters_eq (c : Config) :
    c.beginParameters =
      c.bookmark.newest?.elim [] (fun newest =>
        [("bookmark", .string newest), ("bookmarks", .list (c.bookmark.values.map .string))]) ++
      if c.accessMode = .readOnly then [("mode", .string "r")] else [] := by
  rw [beginParameters, Bookmark.beginParameters]
  cases c.bookmark.newest? <;> cases c.accessMode <;> rfl

theorem Config.tells_beginParameters (c : Config) : c.Tells c.beginParameters := by
  have hnew := c.bookmark.represented
  rw [c.beginParameters_eq]
  rcases hnewest : c.bookmark.newest? with _ | newest
  · have hnil := hnew.none_iff.1 hnewest
    by_cases hmode : c.accessMode = .readOnly <;>
      constructor <;> simp [hnil, hmode, hnewest, Params.get?, List.lookup_cons]
  · have hne := mt hnew.none_iff.2 (by simp [hnewest])
    have hmem := hnew.mem newest hnewest
    by_cases hmode : c.accessMode = .readOnly <;>
      constructor <;> simp [hne, hmode, hnewest, hmem, Params.get?, List.lookup_cons]

/-- The newest value of a bookmark is the last of those that spell the greatest number, or the first
if none spells one; its number is the greatest of all, whatever their order. That value and the
whole list are what BEGIN is told of the bookmark. -/
theorem newest_value_told_at_begin (config : Config) :
    config.bookmark.Represented ∧ config.Tells config.beginParameters :=
  ⟨config.bookmark.represented, config.tells_beginParameters⟩

end ClientTransaction
