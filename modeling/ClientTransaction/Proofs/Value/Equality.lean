import ClientTransaction.Value.Tagged
import ClientTransaction.Proofs.Value.Numbers
import Mathlib.Data.List.Nodup
import Mathlib.Data.List.Perm.Subperm

/-!
# Value.Equality — when two values are equal

Values are compared side by side: lists item by item, maps entry by entry under the keys of the
first. On values whose maps hold each key once, as all maps do that are read or built here, this is
a partial equivalence. Two values are equal exactly if they are alike, which allows for another
order of entries and another sign of a zero and for nothing else, and if no NaN occurs in them.
-/

namespace ClientTransaction

namespace Value

/-! ## Values within values -/

/-- `v` is the value, or it occurs in it, at any depth of lists and maps. -/
inductive Within (v : Value) : Value → Prop
  | self : Within v v
  | item {items : List Value} {w : Value} (hw : w ∈ items) (h : Within v w) :
      Within v (.list items)
  | entry {entries : Params} {k : String} {w : Value} (hw : (k, w) ∈ entries) (h : Within v w) :
      Within v (.map entries)

/-- A NaN occurs in the value. -/
def HasNaN (v : Value) : Prop :=
  ∃ d : Double, d.isNaN = true ∧ Within (.float d) v

/-- Every map in the value holds each of its keys once. -/
def Distinct (v : Value) : Prop :=
  ∀ entries, Within (.map entries) v → (entries.map Prod.fst).Nodup

/-- The value has no parts and is no float. -/
def Plain : Value → Prop
  | .float _ | .list _ | .map _ => False
  | _ => True

/-- What holds of a value if it holds of all its items and entries holds of every value. -/
@[elab_as_elim]
theorem induction_within {motive : Value → Prop} (null : motive .null)
    (bool : ∀ b, motive (.bool b)) (int : ∀ i, motive (.int i)) (float : ∀ d, motive (.float d))
    (string : ∀ s, motive (.string s)) (bytes : ∀ bs, motive (.bytes bs))
    (list : ∀ items, (∀ v ∈ items, motive v) → motive (.list items))
    (map : ∀ entries, (∀ k v, (k, v) ∈ entries → motive v) → motive (.map entries)) :
    ∀ v, motive v
  | .null => null
  | .bool b => bool b
  | .int i => int i
  | .float d => float d
  | .string s => string s
  | .bytes bs => bytes bs
  | .list items =>
      list items fun v _ => induction_within null bool int float string bytes list map v
  | .map entries =>
      map entries fun k v hv =>
        have hlt : sizeOf v < sizeOf entries := by
          have hentry := List.sizeOf_lt_of_mem hv
          simp only [Prod.mk.sizeOf_spec] at hentry
          omega
        induction_within null bool int float string bytes list map v

section

variable {d : Double} {items : List Value} {entries : Params}

theorem within_float_iff {v : Value} : Within v (.float d) ↔ v = .float d := by
  constructor
  · intro h
    cases h with
    | self => rfl
  · rintro rfl
    exact .self

@[simp]
theorem hasNaN_float : HasNaN (.float d) ↔ d.isNaN = true := by
  simp [HasNaN, within_float_iff]

@[simp]
theorem hasNaN_list : HasNaN (.list items) ↔ ∃ v ∈ items, HasNaN v := by
  constructor
  · rintro ⟨d, hd, h⟩
    cases h with
    | item hw h => exact ⟨_, hw, d, hd, h⟩
  · rintro ⟨v, hv, d, hd, h⟩
    exact ⟨d, hd, .item hv h⟩

@[simp]
theorem hasNaN_map : HasNaN (.map entries) ↔ ∃ k v, (k, v) ∈ entries ∧ HasNaN v := by
  constructor
  · rintro ⟨d, hd, h⟩
    cases h with
    | entry hw h => exact ⟨_, _, hw, d, hd, h⟩
  · rintro ⟨k, v, hv, d, hd, h⟩
    exact ⟨d, hd, .entry hv h⟩

theorem Distinct.of_mem (h : Distinct (.list items)) {v : Value} (hv : v ∈ items) : Distinct v :=
  fun entries hwithin => h entries (.item hv hwithin)

theorem Distinct.of_entry (h : Distinct (.map entries)) {k : String} {v : Value}
    (hv : (k, v) ∈ entries) : Distinct v :=
  fun inner hwithin => h inner (.entry hv hwithin)

theorem Distinct.keys (h : Distinct (.map entries)) : (entries.map Prod.fst).Nodup :=
  h entries .self

theorem Plain.distinct {v : Value} (h : v.Plain) : v.Distinct := by
  intro inner hwithin
  cases hwithin <;> exact h.elim

theorem distinct_float : Distinct (.float d) := by
  intro inner hwithin
  cases within_float_iff.1 hwithin

theorem distinct_list (h : ∀ v ∈ items, v.Distinct) :
    Distinct (.list items) := by
  intro inner hwithin
  cases hwithin with
  | item hw hwithin => exact h _ hw inner hwithin

theorem distinct_map (hkeys : (entries.map Prod.fst).Nodup)
    (h : ∀ k v, (k, v) ∈ entries → v.Distinct) : Distinct (.map entries) := by
  intro inner hwithin
  cases hwithin with
  | self => exact hkeys
  | entry hw hwithin => exact h _ _ hw inner hwithin

section

variable {v w : Value}

theorem distinct_list_pair (hv : v.Distinct) (hw : w.Distinct) : Distinct (.list [v, w]) :=
  distinct_list (List.forall_mem_cons.2 ⟨hv, List.forall_mem_singleton.2 hw⟩)

theorem distinct_map_pair {k l : String} (hkeys : k ≠ l) (hv : v.Distinct) (hw : w.Distinct) :
    Distinct (.map [(k, v), (l, w)]) := by
  refine distinct_map (by simpa using hkeys) fun key value hmem => ?_
  rcases List.mem_pair.1 hmem with h | h
  · obtain ⟨-, rfl⟩ := Prod.mk.inj h
    exact hv
  · obtain ⟨-, rfl⟩ := Prod.mk.inj h
    exact hw

end

end

end Value

/-! ## Looking up -/

namespace Params

variable {params : Params} {key : String} {value : Value}

/-- What is found under a key is an entry. -/
theorem mem_of_get? (h : params.get? key = some value) : (key, value) ∈ params := by
  obtain ⟨before, after, rfl, -⟩ := List.lookup_eq_some_iff.1 h
  simp

/-- Every entry is found where each key is held once. -/
theorem get?_of_mem (hkeys : (params.map Prod.fst).Nodup) (h : (key, value) ∈ params) :
    params.get? key = some value := by
  obtain ⟨before, after, rfl⟩ := List.append_of_mem h
  refine List.lookup_eq_some_iff.2 ⟨before, after, rfl, fun entry hentry => ?_⟩
  rw [List.map_append, List.map_cons] at hkeys
  have hfresh : key ∉ before.map Prod.fst := fun hin =>
    (List.nodup_append.1 hkeys).2.2 key hin key (List.mem_cons_self ..) rfl
  simpa using fun heq : key = entry.1 => hfresh (heq ▸ List.mem_map_of_mem hentry)

/-- A key leads to a value exactly if it is held. -/
theorem exists_get?_iff : (∃ value, params.get? key = some value) ↔ key ∈ params.map Prod.fst := by
  have hsome : (params.get? key).isSome = true ↔ ∃ entry ∈ params, (key == entry.1) = true :=
    List.lookup_isSome_iff
  rw [← Option.isSome_iff_exists, hsome, List.mem_map]
  exact exists_congr fun entry => and_congr_right fun _ => beq_iff_eq.trans eq_comm

/-- Of two maps with the same keys the second has a value where the first has one. -/
theorem exists_get?_of_keys {ps qs : Params}
    (hkeys : ∀ k, k ∈ ps.map Prod.fst ↔ k ∈ qs.map Prod.fst) (h : ps.get? key = some value) :
    ∃ other, qs.get? key = some other :=
  exists_get?_iff.2 ((hkeys key).1 (exists_get?_iff.1 ⟨value, h⟩))

end Params

namespace Value

/-! ## Side by side -/

section

variable {xs ys : List Value} {ps qs : Params}

/-- Of two lists of one length the second has an item where the first has one. -/
theorem exists_item_of_length (hlength : xs.length = ys.length) {i : Nat} {x : Value}
    (hx : xs[i]? = some x) : ∃ y, ys[i]? = some y :=
  ⟨_, List.getElem?_eq_getElem (hlength ▸ (List.getElem?_eq_some_iff.1 hx).1)⟩

theorem equalsEach_iff : equalsEach xs ys = true ↔ xs.length = ys.length ∧
    ∀ (i : Nat) x y, xs[i]? = some x → ys[i]? = some y → x.equals y = true := by
  -- The induction is on the first list, for every second one.
  induction xs generalizing ys with
  | nil => cases ys <;> simp [equalsEach]
  | cons x xs ih =>
      cases ys with
      | nil => simp [equalsEach]
      | cons y ys =>
          simp only [equalsEach, Bool.and_eq_true, ih, List.length_cons, Nat.add_right_cancel_iff]
          constructor
          · rintro ⟨hhead, hlength, heach⟩
            refine ⟨hlength, fun i u v hu hv => ?_⟩
            cases i with
            | zero =>
                obtain rfl : x = u := by simpa using hu
                obtain rfl : y = v := by simpa using hv
                exact hhead
            | succ i => exact heach i u v (by simpa using hu) (by simpa using hv)
          · rintro ⟨hlength, heach⟩
            exact ⟨heach 0 x y rfl rfl, hlength, fun i u v hu hv => heach (i + 1) u v hu hv⟩

theorem includedIn_iff : includedIn ps qs = true ↔
    ∀ k v, (k, v) ∈ ps → ∃ w, Params.get? qs k = some w ∧ v.equals w = true := by
  induction ps with
  | nil => simp [includedIn]
  | cons entry ps ih =>
      rcases entry with ⟨k, v⟩
      have hhead : includedIn ((k, v) :: ps) qs = true ↔
          (∃ w, Params.get? qs k = some w ∧ v.equals w = true) ∧ includedIn ps qs = true := by
        unfold Params.get?
        cases hlookup : qs.lookup k <;> simp [includedIn, hlookup]
      rw [hhead, ih]
      constructor
      · rintro ⟨hfirst, hrest⟩ k' v' hmem
        rcases List.mem_cons.1 hmem with heq | hmem
        · cases heq
          exact hfirst
        · exact hrest k' v' hmem
      · intro hall
        exact ⟨hall k v (List.mem_cons_self ..), fun k' v' hmem =>
          hall k' v' (List.mem_cons_of_mem _ hmem)⟩

/-- Two maps are equal exactly if they hold the same keys, and equal values under each. -/
theorem equals_map_iff (hps : (ps.map Prod.fst).Nodup) (hqs : (qs.map Prod.fst).Nodup) :
    equals (.map ps) (.map qs) = true ↔
      (∀ k, k ∈ ps.map Prod.fst ↔ k ∈ qs.map Prod.fst) ∧
        ∀ k v w, Params.get? ps k = some v → Params.get? qs k = some w → v.equals w = true := by
  simp only [equals, Bool.and_eq_true, beq_iff_eq, includedIn_iff]
  constructor
  · rintro ⟨hlength, hincluded⟩
    have hsubset : ps.map Prod.fst ⊆ qs.map Prod.fst := by
      intro k hk
      obtain ⟨v, hv⟩ := Params.exists_get?_iff.2 hk
      obtain ⟨w, hw, -⟩ := hincluded k v (Params.mem_of_get? hv)
      exact Params.exists_get?_iff.1 ⟨w, hw⟩
    -- The first map has no fewer keys, so the second has no others.
    have hperm : (ps.map Prod.fst).Perm (qs.map Prod.fst) := by
      refine (List.subperm_of_subset hps hsubset).perm_of_length_le ?_
      simp only [List.length_map, hlength, Nat.le_refl]
    refine ⟨fun k => hperm.mem_iff, fun k v w hv hw => ?_⟩
    obtain ⟨w', hw', hequal⟩ := hincluded k v (Params.mem_of_get? hv)
    obtain rfl : w = w' := Option.some.inj (hw.symm.trans hw')
    exact hequal
  · rintro ⟨hkeys, hvalues⟩
    refine ⟨?_, fun k v hmem => ?_⟩
    · have hperm := (List.perm_ext_iff_of_nodup hps hqs).2 hkeys
      simpa using hperm.length_eq
    · have hv := Params.get?_of_mem hps hmem
      obtain ⟨w, hw⟩ := Params.exists_get?_of_keys hkeys hv
      exact ⟨w, hw, hvalues k v w hv hw⟩

end

/-! ## Values that are alike -/

/-- Two values of one shape: the same types, lists of one length, and maps with the same keys. They
may differ in the order of entries and in the signs of zeros, and in nothing else. -/
inductive Alike : Value → Value → Prop
  | null : Alike .null .null
  | bool (b : Bool) : Alike (.bool b) (.bool b)
  | int (i : Int64) : Alike (.int i) (.int i)
  | float {d e : Double} (h : d = e ∨ d.isZero = true ∧ e.isZero = true) :
      Alike (.float d) (.float e)
  | string (s : String) : Alike (.string s) (.string s)
  | bytes (bs : List UInt8) : Alike (.bytes bs) (.bytes bs)
  | list {xs ys : List Value} (length : xs.length = ys.length)
      (each : ∀ (i : Nat) x y, xs[i]? = some x → ys[i]? = some y → Alike x y) :
      Alike (.list xs) (.list ys)
  | map {ps qs : Params} (keys : ∀ k, k ∈ ps.map Prod.fst ↔ k ∈ qs.map Prod.fst)
      (values : ∀ k v w, Params.get? ps k = some v → Params.get? qs k = some w → Alike v w) :
      Alike (.map ps) (.map qs)

namespace Alike

variable {a b c : Value}

theorem refl (a : Value) : Alike a a := by
  induction a using induction_within with
  | null => exact .null
  | bool b => exact .bool b
  | int i => exact .int i
  | float d => exact .float (.inl rfl)
  | string s => exact .string s
  | bytes bs => exact .bytes bs
  | list items ih =>
      apply Alike.list rfl
      intro i x y hx hy
      obtain rfl : x = y := Option.some.inj (hx.symm.trans hy)
      exact ih x (List.mem_of_getElem? hx)
  | map entries ih =>
      apply Alike.map fun k => Iff.rfl
      intro k v w hv hw
      obtain rfl : v = w := Option.some.inj (hv.symm.trans hw)
      exact ih k v (Params.mem_of_get? hv)

theorem symm (h : Alike a b) : Alike b a := by
  induction h with
  | null => exact .null
  | bool b => exact .bool b
  | int i => exact .int i
  | float h => exact .float (h.imp Eq.symm And.symm)
  | string s => exact .string s
  | bytes bs => exact .bytes bs
  | list length each ih => exact .list length.symm fun i x y hx hy => ih i y x hy hx
  | map keys values ih => exact .map (fun k => (keys k).symm) fun k v w hv hw => ih k w v hw hv

theorem trans (h : Alike a b) (h' : Alike b c) : Alike a c := by
  induction h generalizing c with
  | null => exact h'
  | bool b => exact h'
  | int i => exact h'
  | float h =>
      cases h' with
      | float h' =>
          refine .float ?_
          rcases h with rfl | ⟨hd, he⟩
          · exact h'
          · rcases h' with rfl | ⟨-, hf⟩
            · exact .inr ⟨hd, he⟩
            · exact .inr ⟨hd, hf⟩
  | string s => exact h'
  | bytes bs => exact h'
  | @list xs ys length each ih =>
      cases h' with
      | @list _ zs length' each' =>
          refine .list (length.trans length') fun i x z hx hz => ?_
          -- An item in between has the same place.
          obtain ⟨y, hy⟩ := exists_item_of_length length hx
          exact ih i x y hx hy (each' i y z hy hz)
  | @map ps qs keys values ih =>
      cases h' with
      | @map _ rs keys' values' =>
          refine .map (fun k => (keys k).trans (keys' k)) fun k v w hv hw => ?_
          obtain ⟨u, hu⟩ := Params.exists_get?_of_keys keys hv
          exact ih k v u hv hu (values' k u w hu hw)

/-- What is alike to a value with a NaN has a NaN too. -/
theorem hasNaN (h : Alike a b) (ha : a.Distinct) (hnan : a.HasNaN) : b.HasNaN := by
  induction h with
  | null => exact hnan
  | bool b => exact hnan
  | int i => exact hnan
  | @float d e h =>
      rcases h with rfl | ⟨hzero, -⟩
      · exact hnan
      · -- A zero is not a NaN.
        have hd := hasNaN_float.1 hnan
        simp [Double.isNaN_of_isZero hzero] at hd
  | string s => exact hnan
  | bytes bs => exact hnan
  | @list xs ys length each ih =>
      obtain ⟨x, hx, hnan⟩ := hasNaN_list.1 hnan
      obtain ⟨i, hi⟩ := List.mem_iff_getElem?.1 hx
      obtain ⟨y, hy⟩ := exists_item_of_length length hi
      exact hasNaN_list.2 ⟨y, List.mem_of_getElem? hy, ih i x y hi hy (ha.of_mem hx) hnan⟩
  | @map ps qs keys values ih =>
      obtain ⟨k, v, hmem, hnan⟩ := hasNaN_map.1 hnan
      have hv := Params.get?_of_mem ha.keys hmem
      obtain ⟨w, hw⟩ := Params.exists_get?_of_keys keys hv
      exact hasNaN_map.2 ⟨k, w, Params.mem_of_get? hw, ih k v w hv hw (ha.of_entry hmem) hnan⟩

end Alike

/-! ## Equal values -/

/-- Plain values are equal only to themselves. -/
theorem equals_iff_alike_of_plain {a : Value} (h : a.Plain) (b : Value) :
    a.equals b = true ↔ Alike a b ∧ ¬ a.HasNaN := by
  have hnan : ¬ a.HasNaN := by
    rintro ⟨d, -, hwithin⟩
    cases hwithin <;> exact h
  have hequals : a.equals b = true ↔ a = b := by
    cases a <;> cases b <;> simp [Plain, equals] at h ⊢
  have halike : Alike a b ↔ a = b := by
    constructor
    · intro h'
      cases h' <;> first | rfl | exact h.elim
    · rintro rfl
      exact .refl a
  rw [hequals, halike]
  exact (and_iff_left hnan).symm

theorem equals_iff_alike_of_float (d : Double) (b : Value) :
    equals (.float d) b = true ↔ Alike (.float d) b ∧ ¬ HasNaN (.float d) := by
  cases b with
  | float e =>
      have halike : Alike (.float d) (.float e) ↔ d = e ∨ d.isZero = true ∧ e.isZero = true :=
        ⟨fun h => by cases h with | float h => exact h, .float⟩
      rw [equals, Double.numEq_iff_eq_or_zero, halike, hasNaN_float]
      constructor
      · rintro ⟨hd, -, hagree⟩
        exact ⟨hagree, by simp [hd]⟩
      · rintro ⟨hagree, hnan⟩
        have hd : d.isNaN = false := by simpa using hnan
        refine ⟨hd, ?_, hagree⟩
        rcases hagree with rfl | ⟨-, he⟩
        · exact hd
        · exact Double.isNaN_of_isZero he
  | _ => exact ⟨fun h => by simp [equals] at h, fun h => by cases h.1⟩

/-- Equal values are those that are alike and hold no NaN. -/
theorem equals_iff_alike {a b : Value} (ha : a.Distinct) (hb : b.Distinct) :
    a.equals b = true ↔ Alike a b ∧ ¬ a.HasNaN := by
  induction a using induction_within generalizing b with
  | list xs ih =>
      cases b with
      | list ys =>
          have heach (i : Nat) (x y : Value) (hx : xs[i]? = some x) (hy : ys[i]? = some y) :
              x.equals y = true ↔ Alike x y ∧ ¬ x.HasNaN :=
            ih x (List.mem_of_getElem? hx) (ha.of_mem (List.mem_of_getElem? hx))
              (hb.of_mem (List.mem_of_getElem? hy))
          rw [equals, equalsEach_iff]
          constructor
          · rintro ⟨hlength, hequal⟩
            refine ⟨.list hlength fun i x y hx hy => ?_, fun hnan => ?_⟩
            · exact ((heach i x y hx hy).1 (hequal i x y hx hy)).1
            · obtain ⟨x, hx, hnan⟩ := hasNaN_list.1 hnan
              obtain ⟨i, hi⟩ := List.mem_iff_getElem?.1 hx
              obtain ⟨y, hy⟩ := exists_item_of_length hlength hi
              exact ((heach i x y hi hy).1 (hequal i x y hi hy)).2 hnan
          · rintro ⟨halike, hnan⟩
            cases halike with
            | list length each =>
                refine ⟨length, fun i x y hx hy => (heach i x y hx hy).2 ⟨each i x y hx hy, ?_⟩⟩
                exact fun h => hnan (hasNaN_list.2 ⟨x, List.mem_of_getElem? hx, h⟩)
      | _ => exact ⟨fun h => by simp [equals] at h, fun h => by cases h.1⟩
  | map ps ih =>
      cases b with
      | map qs =>
          have heach (k : String) (v w : Value) (hv : Params.get? ps k = some v)
              (hw : Params.get? qs k = some w) : v.equals w = true ↔ Alike v w ∧ ¬ v.HasNaN :=
            ih k v (Params.mem_of_get? hv) (ha.of_entry (Params.mem_of_get? hv))
              (hb.of_entry (Params.mem_of_get? hw))
          rw [equals_map_iff ha.keys hb.keys]
          constructor
          · rintro ⟨hkeys, hequal⟩
            refine ⟨.map hkeys fun k v w hv hw => ?_, fun hnan => ?_⟩
            · exact ((heach k v w hv hw).1 (hequal k v w hv hw)).1
            · obtain ⟨k, v, hmem, hnan⟩ := hasNaN_map.1 hnan
              have hv := Params.get?_of_mem ha.keys hmem
              obtain ⟨w, hw⟩ := Params.exists_get?_of_keys hkeys hv
              exact ((heach k v w hv hw).1 (hequal k v w hv hw)).2 hnan
          · rintro ⟨halike, hnan⟩
            cases halike with
            | map keys values =>
                refine ⟨keys, fun k v w hv hw => (heach k v w hv hw).2 ⟨values k v w hv hw, ?_⟩⟩
                exact fun h => hnan (hasNaN_map.2 ⟨k, v, Params.mem_of_get? hv, h⟩)
      | _ => exact ⟨fun h => by simp [equals] at h, fun h => by cases h.1⟩
  | float d => exact equals_iff_alike_of_float d b
  | null => exact equals_iff_alike_of_plain (a := .null) trivial b
  | bool x => exact equals_iff_alike_of_plain (a := .bool x) trivial b
  | int i => exact equals_iff_alike_of_plain (a := .int i) trivial b
  | string s => exact equals_iff_alike_of_plain (a := .string s) trivial b
  | bytes bs => exact equals_iff_alike_of_plain (a := .bytes bs) trivial b

theorem equals_symm {a b : Value} (ha : a.Distinct) (hb : b.Distinct) (h : a.equals b = true) :
    b.equals a = true := by
  obtain ⟨halike, hnan⟩ := (equals_iff_alike ha hb).1 h
  -- A NaN in the second value would be one in the first.
  exact (equals_iff_alike hb ha).2 ⟨halike.symm, fun h => hnan (halike.symm.hasNaN hb h)⟩

/-- Equality is symmetric and transitive, and it is reflexive on the values without a NaN. It holds
between values of one shape that differ at most in the signs of zeros, and between floats exactly
if they stand for the same number. -/
theorem equality_laws {a b c : Value} (ha : a.Distinct) (hb : b.Distinct) (hc : c.Distinct) :
    (a.equals b = true ↔ b.equals a = true) ∧
      (a.equals b = true → b.equals c = true → a.equals c = true) ∧
      (a.equals a = true ↔ ¬ a.HasNaN) ∧
      (a.equals b = true ↔ Alike a b ∧ ¬ a.HasNaN) ∧
      ∀ d e : Double, equals (.float d) (.float e) = true ↔
        ∃ x, d.number? = some x ∧ e.number? = some x := by
  refine ⟨⟨equals_symm ha hb, equals_symm hb ha⟩, fun h h' => ?_, ?_, equals_iff_alike ha hb, ?_⟩
  · obtain ⟨halike, hnan⟩ := (equals_iff_alike ha hb).1 h
    obtain ⟨halike', -⟩ := (equals_iff_alike hb hc).1 h'
    exact (equals_iff_alike ha hc).2 ⟨halike.trans halike', hnan⟩
  · calc
      a.equals a = true ↔ Alike a a ∧ ¬ a.HasNaN := equals_iff_alike ha ha
      _ ↔ ¬ a.HasNaN := and_iff_right (.refl a)
  · intro d e
    rw [equals]
    exact Double.numEq_iff_number

/-- A map within a map, beside a list with a zero. -/
def sorted : Value :=
  .map [("a", .list [.float ⟨0⟩, .int 1]), ("b", .map [("x", .null), ("y", .bool true)])]

/-- The same entries in another order, with the other zero. -/
def reversed : Value :=
  .map [("b", .map [("y", .bool true), ("x", .null)]),
    ("a", .list [.float ⟨0x8000000000000000⟩, .int 1])]

theorem distinct_sorted : sorted.Distinct :=
  distinct_map_pair (by decide) (distinct_list_pair distinct_float (Plain.distinct trivial))
    (distinct_map_pair (by decide) (Plain.distinct trivial) (Plain.distinct trivial))

theorem distinct_reversed : reversed.Distinct :=
  distinct_map_pair (by decide)
    (distinct_map_pair (by decide) (Plain.distinct trivial) (Plain.distinct trivial))
    (distinct_list_pair distinct_float (Plain.distinct trivial))

theorem equality_of_reordered :
    sorted ≠ reversed ∧ reversed.equals sorted = true ∧ Alike sorted reversed ∧
      sorted.equals sorted = true ∧ ¬ sorted.HasNaN := by
  have hequal : sorted.equals reversed = true := by decide
  obtain ⟨hsymm, htrans, hrefl, halike, -⟩ :=
    equality_laws distinct_sorted distinct_reversed distinct_sorted
  have hself : sorted.equals sorted = true := htrans hequal (hsymm.1 hequal)
  exact ⟨by simp [sorted, reversed], hsymm.1 hequal, (halike.1 hequal).1, hself, hrefl.1 hself⟩

end Value

end ClientTransaction
