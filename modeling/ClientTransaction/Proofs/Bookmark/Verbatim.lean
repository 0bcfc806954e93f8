import ClientTransaction.Config.Source
import ClientTransaction.Message
import ClientTransaction.Proofs.Bookmark.Newest
import ClientTransaction.Proofs.Json.Writing

/-!
# Bookmark.Verbatim — lists that are read as they stand

An empty text is of no use as a value of a bookmark. Those who build a bookmark leave it out, and so
does the reader of replies. A list in a document is taken as it stands, so a bookmark that is read
holds an empty text exactly if the list does. A bookmark that holds nothing else then passes for one
that names a point in the log.
-/

namespace ClientTransaction

namespace Bookmark

/-- One of the values is the empty text. -/
def HasBlank (b : Bookmark) : Prop :=
  "" ∈ b.values

instance (b : Bookmark) : Decidable b.HasBlank :=
  inferInstanceAs (Decidable ("" ∈ b.values))

/-- None of the values names a point in the log. -/
def IsVoid (b : Bookmark) : Prop :=
  ∀ v ∈ b.values, v = ""

section

variable {b : Bookmark} {values : List String}

theorem not_hasBlank_empty : ¬ empty.HasBlank :=
  List.not_mem_nil

theorem not_hasBlank_ofValues (values : List String) : ¬ (ofValues values).HasBlank := by
  simp [HasBlank, ofValues]

/-- Leaving empty texts out changes nothing exactly if there are none. -/
theorem eq_ofValues_iff : (⟨values⟩ : Bookmark) = ofValues values ↔ "" ∉ values := by
  constructor
  · intro h hblank
    exact not_hasBlank_ofValues values (h ▸ hblank)
  · intro h
    have hkept : values.filter (fun v => v ≠ "") = values :=
      List.filter_eq_self.2 fun v hv => by simpa using fun heq : v = "" => h (heq ▸ hv)
    exact congrArg mk hkept.symm

theorem isEmpty_iff : b.isEmpty = true ↔ b = empty := by
  rcases b with ⟨values⟩
  simp [isEmpty, empty]

/-- Without an empty text a bookmark with no useful value has no value. -/
theorem IsVoid.eq_empty_iff (h : b.IsVoid) : b = empty ↔ ¬ b.HasBlank := by
  constructor
  · rintro rfl
    exact not_hasBlank_empty
  · intro hblank
    have hnone : b.values = [] := by
      refine List.eq_nil_iff_forall_not_mem.2 fun v hv => hblank ?_
      have hmem : "" ∈ b.values := by simpa [h v hv] using hv
      exact hmem
    exact congrArg mk hnone

/-! ## Reading -/

theorem textsOfJson?_eq_some_iff {items : List Json} : textsOfJson? items = some values ↔
    items = values.map fun v => .string (some v) := by
  induction items generalizing values with
  | nil => cases values <;> simp [textsOfJson?]
  | cons item rest ih =>
      rcases item with _ | _ | _ | ⟨_ | text⟩ | _ | _ <;> cases values <;>
        simp [textsOfJson?, ih, and_comm]

/-- The list is taken as it stands. -/
theorem ofJson?_eq_some_iff {json : Json} : ofJson? json = some b ↔
    json = .array (b.values.map fun v => .string (some v)) := by
  rcases b with ⟨values⟩
  cases json <;> simp [ofJson?, textsOfJson?_eq_some_iff]

theorem stringsOfItems?_eq_some_iff {items : List Toml.Item} :
    stringsOfItems? items = some values ↔ items = values.map .string := by
  induction items generalizing values with
  | nil => cases values <;> simp [stringsOfItems?]
  | cons item rest ih => cases item <;> cases values <;> simp [stringsOfItems?, ih, and_comm]

theorem ofItem?_eq_some_iff {item : Toml.Item} : ofItem? item = some b ↔
    item = .array (b.values.map .string) := by
  rcases b with ⟨values⟩
  cases item <;> simp [ofItem?, stringsOfItems?_eq_some_iff]

theorem spells_toJson (b : Bookmark) :
    Json.Spells b.toJson (.array (b.values.map fun v => .string (some v))) := by
  apply Json.spells_writeArray
  rw [List.forall₂_map_left_iff, List.forall₂_map_right_iff, List.forall₂_same]
  exact fun v _ => Json.spells_writeString v

/-- A bookmark is read back from its text. -/
theorem decode?_toJson (b : Bookmark) : decode? b.toJson = some b := by
  rw [decode?, b.spells_toJson.read?, Option.bind_some]
  exact ofJson?_eq_some_iff.2 rfl

/-- Of the ways to name a bookmark only a text can name one with an empty value. -/
theorem of_ofSource?_of_hasBlank {source : Source} (h : ofSource? source = some b)
    (hblank : b.HasBlank) : ∃ text, source = .json text ∧ decode? text = some b := by
  cases source with
  | empty =>
      obtain rfl := Option.some.inj h
      exact absurd hblank not_hasBlank_empty
  | value value =>
      obtain rfl := Option.some.inj h
      exact absurd hblank (not_hasBlank_ofValues _)
  | values values =>
      obtain rfl := Option.some.inj h
      exact absurd hblank (not_hasBlank_ofValues _)
  | json text => exact ⟨text, rfl, h⟩

end

end Bookmark

/-- No reply brings an empty value. -/
theorem Message.not_hasBlank_bookmark (metadata : Params) :
    ¬ (Message.bookmark metadata).HasBlank := by
  unfold Message.bookmark
  split
  · exact Bookmark.not_hasBlank_ofValues _
  · exact Bookmark.not_hasBlank_empty

/-! ## Configurations -/

namespace Config

theorem spells_toJson (c : Config) :
    Json.Spells c.toJson (.object
      [(some "bookmark", .array (c.bookmark.values.map fun v => .string (some v))),
        (some "access_mode", .string (some c.accessMode.tag))]) := by
  apply Json.spells_writeObject
  exact .cons ⟨rfl, c.bookmark.spells_toJson⟩ (.cons ⟨rfl, Json.spells_writeString _⟩ .nil)

/-- A configuration is read back from its text. -/
theorem decode?_toJson (c : Config) : decode? c.toJson = some c := by
  have hbookmark : Bookmark.ofJson? (.array (c.bookmark.values.map fun v => .string (some v))) =
      some c.bookmark := Bookmark.ofJson?_eq_some_iff.2 rfl
  have hmode : AccessMode.ofJson? (.string (some c.accessMode.tag)) = some c.accessMode := by
    cases c.accessMode <;> rfl
  rw [decode?, c.spells_toJson.read?, Option.bind_some]
  simp [ofJson?, foundInEntries?, hbookmark, hmode]

section

variable {c : Config}

theorem ofEntries?_eq (entries : Toml.Entries) : ofEntries? entries =
    ((entries.lookup "bookmark").elim (some Bookmark.empty) Bookmark.ofItem?).bind fun b =>
      ((entries.lookup "access_mode").elim (some .readWrite) AccessMode.ofItem?).bind fun mode =>
        some ⟨b, mode⟩ := by
  unfold ofEntries?
  cases entries.lookup "bookmark" <;> cases entries.lookup "access_mode" <;> rfl

/-- The list under `bookmark` is taken as it stands. -/
theorem bookmark_of_ofEntries? {entries : Toml.Entries} (h : ofEntries? entries = some c) :
    entries.lookup "bookmark" = none ∧ c.bookmark = Bookmark.empty ∨
      entries.lookup "bookmark" = some (.array (c.bookmark.values.map .string)) := by
  rw [ofEntries?_eq] at h
  obtain ⟨b, hread, h⟩ := Option.bind_eq_some_iff.1 h
  obtain ⟨mode, -, hc⟩ := Option.bind_eq_some_iff.1 h
  obtain rfl : (⟨b, mode⟩ : Config) = c := Option.some.inj hc
  cases hlookup : entries.lookup "bookmark" with
  | none =>
      rw [hlookup, Option.elim_none] at hread
      exact .inl ⟨rfl, (Option.some.inj hread).symm⟩
  | some item =>
      rw [hlookup, Option.elim_some] at hread
      exact .inr (congrArg some (Bookmark.ofItem?_eq_some_iff.1 hread))

theorem bookmark_of_ofToml? {text : String} {entries : Toml.Entries} {values : List String}
    (hread : Toml.read? text = some entries)
    (hlist : entries.lookup "bookmark" = some (.array (values.map .string)))
    (h : ofToml? text = some c) : c.bookmark = ⟨values⟩ := by
  rw [ofToml?, hread, Option.bind_some] at h
  rcases bookmark_of_ofEntries? h with ⟨hnone, -⟩ | hsome
  · rw [hnone] at hlist
    simp at hlist
  · have hitems := Toml.Item.array.inj (Option.some.inj (hsome.symm.trans hlist))
    have hvalues : c.bookmark.values = values :=
      List.map_injective_iff.2 (fun _ _ => Toml.Item.string.inj) hitems
    exact congrArg Bookmark.mk hvalues

/-- A text from which a configuration takes a bookmark. -/
inductive Dictates : Source → Bookmark → Prop
  | json {text : String} {c : Config} (h : decode? text = some c) : Dictates (.json text) c.bookmark
  | toml {text : String} {c : Config} (h : ofToml? text = some c) : Dictates (.toml text) c.bookmark
  | setting {sources : List SettingSource} {text : String} {b : Bookmark}
      (hmem : .bookmark (.json text) ∈ sources) (h : Bookmark.decode? text = some b) :
      Dictates (.settings sources) b

/-- The bookmark of a configuration that is built is the empty one or that of a setting. -/
theorem bookmark_build (settings : List Setting) :
    (build settings).bookmark = Bookmark.empty ∨
      .bookmark (build settings).bookmark ∈ settings := by
  induction settings using List.reverseRecOn with
  | nil => exact .inl rfl
  | append_singleton settings last ih =>
      have hlast : build (settings ++ [last]) = (build settings).set last := by simp [build]
      rw [hlast]
      cases last with
      | bookmark b => exact .inr (by simp [set])
      | accessMode mode => exact ih.imp_right fun h => List.mem_append_left _ h

theorem exists_source_of_mem {sources : List SettingSource} {settings : List Setting}
    (h : settingsOfSources sources = .ok settings) {setting : Setting} (hmem : setting ∈ settings) :
    ∃ source ∈ sources, settingOfSource source = .ok setting := by
  induction sources generalizing settings with
  | nil =>
      obtain rfl : [] = settings := by simpa [settingsOfSources] using h
      exact absurd hmem List.not_mem_nil
  | cons source rest ih =>
      unfold settingsOfSources at h
      split at h
      next first others hfirst hothers =>
        obtain rfl := Except.ok.inj h
        rcases List.mem_cons.1 hmem with rfl | hmem
        · exact ⟨source, List.mem_cons_self .., hfirst⟩
        · obtain ⟨source', hsource, hsetting⟩ := ih hothers hmem
          exact ⟨source', List.mem_cons_of_mem _ hsource, hsetting⟩
      next => simp at h
      next => simp at h

/-- Only a text can make a configuration begin with an empty value. -/
theorem dictates_of_hasBlank {source : Source} (h : ofSource source = .ok c)
    (hblank : c.bookmark.HasBlank) : Dictates source c.bookmark := by
  cases source with
  | json text =>
      cases hread : decode? text with
      | none => simp [ofSource, hread] at h
      | some c' =>
          obtain rfl : c' = c := by simpa [ofSource, hread] using h
          exact .json hread
  | toml text =>
      cases hread : ofToml? text with
      | none => simp [ofSource, hread] at h
      | some c' =>
          obtain rfl : c' = c := by simpa [ofSource, hread] using h
          exact .toml hread
  | settings sources =>
      cases hread : settingsOfSources sources with
      | error e => simp [ofSource, hread, Except.map] at h
      | ok settings =>
          obtain rfl : build settings = c := by simpa [ofSource, hread, Except.map] using h
          rcases bookmark_build settings with hempty | hmem
          · exact absurd (hempty ▸ hblank) Bookmark.not_hasBlank_empty
          · obtain ⟨source, hsource, hsetting⟩ := exists_source_of_mem hread hmem
            cases source with
            | accessMode mode => simp [settingOfSource] at hsetting
            | bookmark source =>
                cases hb : Bookmark.ofSource? source with
                | none => simp [settingOfSource, hb] at hsetting
                | some b =>
                    obtain rfl : b = (build settings).bookmark := by
                      simpa [settingOfSource, hb] using hsetting
                    obtain ⟨text, rfl, htext⟩ := Bookmark.of_ofSource?_of_hasBlank hb hblank
                    exact .setting hsource htext

end

end Config

end ClientTransaction
