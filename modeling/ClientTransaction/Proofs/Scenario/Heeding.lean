import ClientTransaction.Proofs.Blocking.Bookmarks
import ClientTransaction.Proofs.Bookmark.Verbatim
import ClientTransaction.Proofs.Scenario.Growth

/-!
# Scenario.Heeding — which bookmarks are heeded

An empty bookmark is not heeded: BEGIN neither carries nor awaits it, and it replaces no other. A
bookmark with values is heeded, whatever the values are. So a bookmark of which no value is of any
use is passed over exactly if it holds no empty text, and only a list that was read as it stood
holds one.
-/

namespace ClientTransaction

/-! ## Where the bookmarks of a run come from -/

namespace Bookmark

variable {b : Bookmark} {bs : List Bookmark}

/-- The latest bookmark is one of those that there were. -/
theorem latest_eq_or_mem (b : Bookmark) (bs : List Bookmark) :
    b.latest bs = b ∨ b.latest bs ∈ bs := by
  unfold latest
  cases hlast : (bs.filter fun new => !new.isEmpty).getLast? with
  | none => exact .inl rfl
  | some new => exact .inr (List.mem_of_mem_filter (List.mem_of_getLast? hlast))

end Bookmark

theorem Message.not_hasBlank_of_carried? {metadata : Params} {b : Bookmark}
    (h : Message.carried? metadata = some b) : ¬ b.HasBlank := by
  unfold Message.carried? at h
  split at h
  · obtain ⟨hne, hb⟩ := Option.ite_none_left_eq_some.1 h
    obtain rfl := Option.some.inj hb
    simpa [Bookmark.HasBlank] using Ne.symm hne
  · simp at h

namespace Scenario

/-- A step of the run has set the bookmark. -/
def WasSet (steps : List Step) (b : Bookmark) : Prop :=
  ∃ name source, .setBookmark name source ∈ steps ∧ Bookmark.ofSource? source = some b

theorem WasSet.cons {steps : List Step} {b : Bookmark} (step : Step) (h : WasSet steps b) :
    WasSet (step :: steps) b := by
  obtain ⟨name, source, hmem, hb⟩ := h
  exact ⟨name, source, List.mem_cons_of_mem _ hmem, hb⟩

section

variable {s : Client} {step : Step} {tx : Nat} {b : Bookmark}

theorem wasSet_of_set? (h : Nonblocking.set? tx s step = some b) (rest : List Step) :
    WasSet (step :: rest) b := by
  obtain ⟨⟨place, b'⟩, hset, hplace⟩ := Option.bind_eq_some_iff.1 h
  obtain ⟨-, hb⟩ := Option.ite_none_right_eq_some.1 hplace
  obtain rfl := Option.some.inj hb
  cases step <;> simp only [Nonblocking.setting?, reduceCtorEq] at hset
  rename_i name source
  obtain ⟨tx', -, hset⟩ := Option.bind_eq_some_iff.1 hset
  obtain ⟨b'', hb'', heq⟩ := Option.map_eq_some_iff.1 hset
  obtain ⟨-, rfl⟩ := Prod.mk.inj heq
  exact ⟨name, source, List.mem_cons_self .., hb''⟩

theorem carried_of_carried? {r : Receipt} (h : r.carried? tx = some b) :
    ∃ metadata, Message.carried? metadata = some b := by
  unfold Receipt.carried? at h
  split at h
  · exact ⟨_, (Option.ite_none_right_eq_some.1 h).2⟩
  · simp at h

theorem wasSet_or_carried_of_mem {steps : List Step} (h : b ∈ Nonblocking.bookmarks tx s steps) :
    WasSet steps b ∨ ∃ metadata, Message.carried? metadata = some b := by
  induction steps generalizing s with
  | nil => exact absurd h List.not_mem_nil
  | cons step rest ih =>
      rcases List.mem_append.1 h with h | h
      · rcases List.mem_append.1 h with h | h
        · exact .inl (wasSet_of_set? (Option.mem_toList.1 h) rest)
        · obtain ⟨r, -, hr⟩ := List.mem_filterMap.1 h
          exact .inr (carried_of_carried? hr)
      · exact (ih h).imp_left (WasSet.cons step)

theorem wasSet_or_carried_of_grant {steps : List Step} {g : Blocking.Grant}
    (h : g ∈ Blocking.grants tx s steps) :
    WasSet steps g.bookmark ∨ ∃ metadata, Message.carried? metadata = some g.bookmark := by
  induction steps generalizing s with
  | nil => exact absurd h List.not_mem_nil
  | cons step rest ih =>
      rcases List.mem_append.1 h with h | h
      · rcases List.mem_append.1 h with h | h
        · obtain ⟨b, hb, rfl⟩ := List.mem_map.1 h
          exact .inl (wasSet_of_set? (Option.mem_toList.1 hb) rest)
        · obtain ⟨r, -, hr⟩ := List.mem_filterMap.1 h
          obtain ⟨b, hb, rfl⟩ := Option.map_eq_some_iff.1 hr
          obtain ⟨metadata, -, -, -, -, hcarried⟩ := Receipt.of_captured? hb
          exact .inr ⟨metadata, hcarried⟩
      · exact (ih h).imp_left (WasSet.cons step)

end

/-- The bookmark of a transaction is empty, or the application has set it, or a reply has brought
it. -/
theorem bookmark_cases (flavor : Flavor) (steps : List Step) (tx : Nat) :
    (after flavor {} steps).bookmark tx = Bookmark.empty ∨
      WasSet steps ((after flavor {} steps).bookmark tx) ∨
      ∃ metadata, Message.carried? metadata = some ((after flavor {} steps).bookmark tx) := by
  cases flavor with
  | nonblocking =>
      rw [Nonblocking.bookmark_after Nonblocking.sound_start Nonblocking.attended_start steps tx]
      exact (Bookmark.latest_eq_or_mem _ _).imp_right wasSet_or_carried_of_mem
  | blocking =>
      obtain ⟨-, hlatest, -⟩ :=
        Blocking.bookmark_after Blocking.settled_start Filed.start steps tx
      rw [hlatest]
      refine (Bookmark.latest_eq_or_mem _ _).imp_right fun hmem => ?_
      obtain ⟨g, hg, heq⟩ := List.mem_map.1 hmem
      rw [← heq]
      exact wasSet_or_carried_of_grant hg

/-- Only a text that was read in the run gives a transaction an empty value. -/
theorem exists_text_of_hasBlank {flavor : Flavor} {steps : List Step} {tx : Nat}
    (h : ((after flavor {} steps).bookmark tx).HasBlank) : ∃ name text,
    .setBookmark name (.json text) ∈ steps ∧
      Bookmark.decode? text = some ((after flavor {} steps).bookmark tx) := by
  rcases bookmark_cases flavor steps tx with hempty | ⟨name, source, hmem, hb⟩ | ⟨metadata, hb⟩
  · exact absurd (hempty ▸ h) Bookmark.not_hasBlank_empty
  · obtain ⟨text, rfl, htext⟩ := Bookmark.of_ofSource?_of_hasBlank hb h
    exact ⟨name, text, hmem, htext⟩
  · exact absurd h (Message.not_hasBlank_of_carried? hb)

/-! ## Waiting for BEGIN -/

/-- The call with which the reply to a BEGIN is awaited. -/
def awaitCall : Flavor → Nat → Event
  | .blocking, tx => .sync tx
  | .nonblocking, tx => .flush tx

end Scenario

namespace Nonblocking

variable {s : Client} {config : Config} (title : String) (reported : Bool) (name : String)

/-- Without a bookmark nothing but the two requests is sent. -/
theorem history_begin_of_empty (h : config.bookmark.isEmpty = true) :
    (begin s title reported config name).history =
      s.history ++ [.run s.transactions.length .begin Message.begin config.beginParameters,
        .pullAll s.transactions.length .begin] := by
  simp [begin, h, Client.frame_send]

/-- With a bookmark they are flushed. -/
theorem history_begin_of_nonempty (h : config.bookmark.isEmpty = false) :
    s.history ++ [.run s.transactions.length .begin Message.begin config.beginParameters,
        .pullAll s.transactions.length .begin, .flush s.transactions.length] <+:
      (begin s title reported config name).history := by
  have hflush (s' : Client) (tx : Nat) : s'.history ++ [.flush tx] <+: (s'.flush tx).history :=
    (Client.grows_settle (s'.record (.flush tx))).history
  simpa [begin, h, Client.frame_send] using hflush
    (((s.addTransaction { title := title, reported := reported }).addHandle
      (.fresh (some name))).send s.transactions.length .begin Message.begin config.beginParameters
        .ignore (.begun s.handles.length)) s.transactions.length

end Nonblocking

namespace Blocking

variable {s : Client} {config : Config} {tx : Nat}

/-- The calls of a BEGIN, of which the last one waits for its reply. -/
def beginCalls (tx : Nat) (config : Config) : List Event :=
  [.run tx .begin Message.begin config.beginParameters, .pullAll tx .begin] ++
    if config.bookmark.isEmpty then [] else [.sync tx]

theorem ran_beginCalls (tx : Nat) (config : Config) (h : s.connection.Passive) :
    Ran tx (beginCalls tx config) s (sendBegin tx config s) := by
  have hrun := ran_run tx .begin Message.begin config.beginParameters .ignore rfl h
  have hpull := hrun.andThen fun s' hs' => ran_pullAll tx .begin .ignore rfl hs'
  unfold sendBegin beginCalls
  cases config.bookmark.isEmpty with
  | true => simpa using hpull
  | false => simpa using hpull.andThen fun s' hs' => ran_sync tx hs'

theorem sync_mem_beginCalls :
    .sync tx ∈ beginCalls tx config ↔ config.bookmark.isEmpty = false := by
  cases h : config.bookmark.isEmpty <;> simp [beginCalls, h]

/-- No call is tried but those that were to be made. -/
theorem StopsShort.sync_mem {events calls : List Event} (h : StopsShort tx events calls)
    (hmem : .sync tx ∈ events) : .sync tx ∈ calls := by
  obtain ⟨made, tail, -, hprefix, htail, rfl⟩ := h
  rcases List.mem_append.1 hmem with hmem | hmem
  · exact hprefix.subset hmem
  · rcases htail with rfl | rfl <;> simp at hmem

/-- Beginning makes the calls of its BEGIN, all of them unless it fails. -/
theorem calls_begin (h : Settled s) (title : String) (reported : Bool) (config : Config) :
    ∃ events, (begin s title reported config).2.calls s.transactions.length =
        s.calls s.transactions.length ++ events ∧
      ((begin s title reported config).1 = none ∧
          events = beginCalls s.transactions.length config ∨
        (begin s title reported config).1 ≠ none ∧
          StopsShort s.transactions.length events (beginCalls s.transactions.length config)) := by
  have hadd : Settled (s.addTransaction { title := title, reported := reported }) :=
    settled_addTransaction h rfl
  have hlive : (s.addTransaction { title := title, reported := reported }).footing?
      s.transactions.length = some ⟨false, none⟩ := by
    simp [Client.footing?, Client.addTransaction]
    rfl
  have hran := ran_beginCalls s.transactions.length config hadd.passive
  unfold begin
  dsimp only
  generalize sendBegin s.transactions.length config
    (s.addTransaction { title := title, reported := reported }) = sent at hran
  rcases sent with ⟨failure, s₁⟩
  cases failure with
  | none =>
      have hmade : Made _ _ _ s₁ := hran
      refine ⟨_, ?_, .inl ⟨rfl, rfl⟩⟩
      have hcalls := hmade.calls s.transactions.length
      rwa [if_pos rfl] at hcalls
  | some e =>
      obtain ⟨events, hstop, hmade⟩ := hran
      refine ⟨events, ?_, .inr ⟨by simp, hstop⟩⟩
      have hclosed := (closed_of_failed hadd hlive hmade).calls s.transactions.length
      have hcalls := hmade.calls s.transactions.length
      rw [if_pos rfl] at hclosed hcalls
      exact (hclosed.trans (List.append_nil _)).trans hcalls

end Blocking

namespace Scenario

/-- A call between two clients is one of those that are seen of its transaction. -/
theorem await_mem_iff {s s' : Client} {events : List Event} {tx : Nat}
    (hgrown : s.history <+: s'.history) (hcalls : s'.calls tx = s.calls tx ++ events) :
    .sync tx ∈ s'.history.drop s.history.length ↔ .sync tx ∈ events := by
  obtain ⟨new, hnew⟩ := hgrown
  have hevents : new.filterMap (Event.call? tx) = events := by
    have hsplit : s'.calls tx = s.calls tx ++ new.filterMap (Event.call? tx) := by
      simp [Client.calls, Client.seen, ← hnew]
    exact List.append_cancel_left (hsplit.symm.trans hcalls)
  have hsame {e e' : Event} (h : e.call? tx = some e') : e' = e := by
    cases e <;> simp at h
    all_goals exact h.2.symm
  rw [← hnew, List.drop_left, ← hevents, List.mem_filterMap]
  constructor
  · intro h
    exact ⟨_, h, by simp⟩
  · rintro ⟨e, he, hcall⟩
    exact hsame hcall ▸ he

/-- What happens when a transaction is begun. -/
def beginEvents (flavor : Flavor) (earlier : List Step) (b : Begin) : List Event :=
  (report flavor (after flavor {} earlier) (.begin b)).1.events

variable {flavor : Flavor} {earlier : List Step} {b : Begin} {config : Config}

/-- Where calls wait, only a BEGIN with a bookmark is waited for, and always if it succeeds. -/
theorem sync_mem_beginEvents (hconfig : beginConfig (after .blocking {} earlier) b = .ok config) :
    (.sync (after .blocking {} earlier).transactions.length ∈ beginEvents .blocking earlier b →
      config.bookmark.isEmpty = false) ∧
    ((perform .blocking (after .blocking {} earlier) (.begin b)).1 = .done →
      config.bookmark.isEmpty = false →
        .sync (after .blocking {} earlier).transactions.length ∈
          beginEvents .blocking earlier b) := by
  have hs := settled_after Blocking.settled_start earlier
  obtain ⟨events, hcalls, hevents⟩ := Blocking.calls_begin hs b.tx b.reported config
  have hgrown := Blocking.grows_begin (after .blocking {} earlier) b.tx b.reported config
  have hseen : .sync (after .blocking {} earlier).transactions.length ∈
      beginEvents .blocking earlier b ↔
        .sync (after .blocking {} earlier).transactions.length ∈ events := by
    rw [← await_mem_iff hgrown.history hcalls]
    simp [beginEvents, report, perform, Scenario.begin, hconfig]
  rw [hseen]
  constructor
  · intro hsync
    -- Also a BEGIN that fails has made no other calls than its own.
    rcases hevents with ⟨-, rfl⟩ | ⟨-, hstop⟩
    · exact Blocking.sync_mem_beginCalls.1 hsync
    · exact Blocking.sync_mem_beginCalls.1 (hstop.sync_mem hsync)
  · intro hdone hb
    -- A transaction that is begun has made all calls of its BEGIN.
    cases hfailure : (Blocking.begin (after .blocking {} earlier) b.tx b.reported config).1 with
    | none =>
        obtain ⟨-, rfl⟩ := hevents.resolve_right fun h => h.1 hfailure
        exact Blocking.sync_mem_beginCalls.2 hb
    | some e => simp [perform, Scenario.begin, hconfig, hfailure, Answer.ofFailure] at hdone

/-- A transaction without a bookmark is not waited for. -/
theorem await_notMem (hconfig : beginConfig (after flavor {} earlier) b = .ok config)
    (hb : config.bookmark.isEmpty = true) :
    awaitCall flavor (after flavor {} earlier).transactions.length ∉
      beginEvents flavor earlier b := by
  cases flavor with
  | nonblocking =>
      have hhistory := Nonblocking.history_begin_of_empty (s := after .nonblocking {} earlier)
        b.tx b.reported b.handle hb
      simp [beginEvents, report, perform, Scenario.begin, hconfig, hhistory, awaitCall]
  | blocking =>
      intro hmem
      simp [(sync_mem_beginEvents hconfig).1 hmem] at hb

/-- A transaction with a bookmark is begun only after its BEGIN was waited for. -/
theorem await_mem (hconfig : beginConfig (after flavor {} earlier) b = .ok config)
    (hb : config.bookmark.isEmpty = false)
    (hdone : (perform flavor (after flavor {} earlier) (.begin b)).1 = .done) :
    awaitCall flavor (after flavor {} earlier).transactions.length ∈
      beginEvents flavor earlier b := by
  cases flavor with
  | nonblocking =>
      obtain ⟨more, hmore⟩ := Nonblocking.history_begin_of_nonempty
        (s := after .nonblocking {} earlier) b.tx b.reported b.handle hb
      simp [beginEvents, report, perform, Scenario.begin, hconfig, ← hmore, awaitCall]
  | blocking => exact (sync_mem_beginEvents hconfig).2 hdone hb

end Scenario

namespace Bookmark

open Scenario

/-- Nothing comes of the bookmark. -/
structure Disregarded (b : Bookmark) : Prop where
  empty : b.isEmpty = true
  /-- BEGIN does not carry it. -/
  untold : ∀ c : Config, c.bookmark = b → c.beginParameters.get? "bookmark" = none ∧
    c.beginParameters.get? "bookmarks" = none
  /-- BEGIN is not waited for. -/
  unawaited : ∀ (flavor : Flavor) (earlier : List Step) (begin : Begin) (config : Config),
    beginConfig (after flavor {} earlier) begin = .ok config → config.bookmark = b →
      awaitCall flavor (after flavor {} earlier).transactions.length ∉
        beginEvents flavor earlier begin
  /-- No transaction gives up its own for it. -/
  passedOver : ∀ t : Transaction, t.setBookmark b = t

/-- The bookmark passes for one that names points in the log. -/
structure Heeded (b : Bookmark) : Prop where
  nonempty : b.isEmpty = false
  /-- BEGIN carries one value and the list of them. -/
  told : ∀ c : Config, c.bookmark = b →
    (∃ v ∈ b.values, c.beginParameters.get? "bookmark" = some (.string v)) ∧
      c.beginParameters.get? "bookmarks" = some (.list (b.values.map .string))
  /-- No transaction is begun before the reply to its BEGIN has come. -/
  awaited : ∀ (flavor : Flavor) (earlier : List Step) (begin : Begin) (config : Config),
    beginConfig (after flavor {} earlier) begin = .ok config → config.bookmark = b →
      (perform flavor (after flavor {} earlier) (.begin begin)).1 = .done →
        awaitCall flavor (after flavor {} earlier).transactions.length ∈
          beginEvents flavor earlier begin
  /-- It takes the place of the bookmark of a transaction. -/
  takenOver : ∀ t : Transaction, t.setBookmark b = { t with bookmark := b }

theorem disregarded_of_isEmpty {b : Bookmark} (h : b.isEmpty = true) : b.Disregarded where
  empty := h
  untold := by
    rintro c rfl
    have htold := c.tells_beginParameters
    have hnil : c.bookmark.values = [] := by simpa [isEmpty] using h
    refine ⟨htold.bookmark.trans ?_, htold.bookmarks.trans (if_pos hnil)⟩
    rw [c.bookmark.represented.none_iff.2 hnil]
    rfl
  unawaited := by
    rintro flavor earlier begin config hconfig rfl
    exact await_notMem hconfig h
  passedOver := by
    intro t
    simp [Transaction.setBookmark, h]

theorem heeded_of_nonempty {b : Bookmark} (h : b.isEmpty = false) : b.Heeded where
  nonempty := h
  told := by
    rintro c rfl
    have htold := c.tells_beginParameters
    have hne : c.bookmark.values ≠ [] := by simpa [isEmpty] using h
    obtain ⟨v, hv⟩ := Option.ne_none_iff_exists'.1 (mt c.bookmark.represented.none_iff.1 hne)
    refine ⟨⟨v, c.bookmark.represented.mem v hv, htold.bookmark.trans ?_⟩,
      htold.bookmarks.trans (if_neg hne)⟩
    rw [hv]
    rfl
  awaited := by
    rintro flavor earlier begin config hconfig rfl hdone
    exact await_mem hconfig h hdone
  takenOver := by
    intro t
    simp [Transaction.setBookmark, h]

/-- A list of texts becomes a bookmark as it stands. -/
structure TakenVerbatim (values : List String) : Prop where
  json : decode? (toJson ⟨values⟩) = some ⟨values⟩
  configJson : ∀ mode, Config.decode? (Config.toJson ⟨⟨values⟩, mode⟩) = some ⟨⟨values⟩, mode⟩
  configToml : ∀ (text : String) (entries : Toml.Entries) (c : Config),
    Toml.read? text = some entries →
      entries.lookup "bookmark" = some (.array (values.map .string)) →
        Config.ofToml? text = some c → c.bookmark = ⟨values⟩
  /-- So it is the bookmark that is built of these texts exactly if none of them is empty. -/
  built_iff : decode? (toJson ⟨values⟩) = some (ofValues values) ↔ "" ∉ values

theorem takenVerbatim (values : List String) : TakenVerbatim values where
  json := decode?_toJson ⟨values⟩
  configJson := fun mode => Config.decode?_toJson ⟨⟨values⟩, mode⟩
  configToml := fun _ _ _ hread hlist h => Config.bookmark_of_ofToml? hread hlist h
  built_iff := by
    rw [decode?_toJson, Option.some.injEq]
    exact eq_ofValues_iff

/-- A bookmark is what is read of it, empty texts included; none of the other ways to make one lets
them in, and in a run a transaction has them only of a text that was read. So a bookmark without a
useful value is disregarded, except for one that was read with an empty text, which is heeded. -/
theorem heeded_as_read (b : Bookmark) :
    TakenVerbatim b.values ∧
      (∀ source, ofSource? source = some b → b.HasBlank →
        ∃ text, source = .json text ∧ decode? text = some b) ∧
      (∀ source c, Config.ofSource source = .ok c → c.bookmark = b → b.HasBlank →
        Config.Dictates source b) ∧
      (∀ metadata, Message.bookmark metadata = b → ¬ b.HasBlank) ∧
      (∀ flavor steps tx, (after flavor {} steps).bookmark tx = b → b.HasBlank →
        ∃ name text, .setBookmark name (.json text) ∈ steps ∧ decode? text = some b) ∧
      (b.IsVoid → (¬ b.HasBlank → b.Disregarded) ∧ (b.HasBlank → b.Heeded)) := by
  refine ⟨takenVerbatim b.values, fun _ => of_ofSource?_of_hasBlank, ?_, ?_, ?_,
    fun hvoid => ⟨?_, ?_⟩⟩
  · rintro source c hconfig rfl
    exact Config.dictates_of_hasBlank hconfig
  · rintro metadata rfl
    exact Message.not_hasBlank_bookmark metadata
  · rintro flavor steps tx rfl
    exact exists_text_of_hasBlank
  · intro hblank
    exact disregarded_of_isEmpty (isEmpty_iff.2 (hvoid.eq_empty_iff.2 hblank))
  · intro hblank
    apply heeded_of_nonempty
    rw [Bool.eq_false_iff, Ne, isEmpty_iff, hvoid.eq_empty_iff]
    exact not_not_intro hblank

/-- An empty text that is built into a bookmark is left out, and one that is read is not. -/
theorem exists_empty_text_read :
    ¬ ∀ values : List String, decode? (toJson ⟨values⟩) = some (ofValues values) := by
  intro hall
  have hread := (decode?_toJson ⟨[""]⟩).symm.trans (hall [""])
  exact absurd hread (by decide)

/-- A transaction that begins after an empty text, as a document has it. -/
def afterNothing : Begin :=
  { tx := "t", config := .toml "bookmark = [\"\"]", reported := true, bookmarkOf := none
    handle := "b" }

/-- A known bookmark is replaced by a list that holds an empty text. -/
def replaced : List Step :=
  [.begin afterNothing, .setBookmark "t" (.value "b1"), .setBookmark "t" (.json "[\"\"]")]

/-- The empty text in a document is waited for, and the same text in a list that is set takes the
place of a known bookmark. -/
theorem heeded_as_read_of_empty_text :
    .sync 0 ∈ beginEvents .blocking [] afterNothing ∧
      (∃ name text, .setBookmark name (.json text) ∈ replaced ∧
        decode? text = some ((after .blocking {} replaced).bookmark 0)) ∧
      (∀ t : Transaction, t.setBookmark ⟨[""]⟩ = { t with bookmark := ⟨[""]⟩ }) ∧
      ∀ t : Transaction, t.setBookmark (ofValues [""]) = t := by
  obtain ⟨-, -, -, -, -, hblank⟩ := heeded_as_read ⟨[""]⟩
  obtain ⟨-, -, -, -, -, hbuilt⟩ := heeded_as_read (ofValues [""])
  obtain ⟨-, -, -, -, hrun, -⟩ := heeded_as_read ((after .blocking {} replaced).bookmark 0)
  have hheeded : Heeded ⟨[""]⟩ := (hblank (by simp [IsVoid])).2 (by decide)
  have hdisregarded : Disregarded (ofValues [""]) :=
    (hbuilt (by simp [IsVoid, ofValues])).1 (by decide)
  have hconfig : Config.ofToml? "bookmark = [\"\"]" = some ⟨⟨[""]⟩, .readWrite⟩ := by
    decide +kernel
  have hbegin : beginConfig (after .blocking {} []) afterNothing = .ok ⟨⟨[""]⟩, .readWrite⟩ := by
    simp [beginConfig, afterNothing, Config.ofSource, hconfig]
  have hdone : (perform .blocking (after .blocking {} []) (.begin afterNothing)).1 = .done := by
    simp only [perform, Scenario.begin, hbegin]
    rfl
  have hset : ((after .blocking {} replaced).bookmark 0).HasBlank := by
    decide +kernel
  exact ⟨hheeded.awaited .blocking [] _ _ hbegin rfl hdone, hrun .blocking replaced 0 rfl hset,
    hheeded.takenOver, hdisregarded.passedOver⟩

end Bookmark

end ClientTransaction
