import ClientTransaction.Scenario
import ClientTransaction.Proofs.Transaction.Growth

/-!
# Error.Classification — which status codes a transaction survives

A status code is judged by three of its segments: the class, and for a client error also the
category and the title. Every text is a status code, with empty segments where dots meet. The codes
that leave the connection usable are described by their texts alone, and a failed result then raises
the state of its transaction according to its error.
-/

namespace ClientTransaction

/-! ## Segments -/

namespace StatusCode

/-- The text is a single segment. -/
def IsSegment (text : String) : Prop :=
  '.' ∉ text.toList

instance (text : String) : Decidable (IsSegment text) :=
  inferInstanceAs (Decidable ('.' ∉ text.toList))

theorem splitDots_of_notMem {chars : List Char} (h : '.' ∉ chars) : splitDots chars = [chars] := by
  induction chars with
  | nil => rfl
  | cons c rest ih =>
      obtain ⟨hc, hrest⟩ := List.ne_and_not_mem_of_not_mem_cons h
      simp [splitDots, hc.symm, ih hrest]

theorem splitDots_ne_nil (chars : List Char) : splitDots chars ≠ [] := by
  cases chars with
  | nil => simp [splitDots]
  | cons c rest =>
      unfold splitDots
      split
      · simp
      · split <;> simp

/-- A dot separates, whatever stands on either side. -/
theorem splitDots_append (left right : List Char) :
    splitDots (left ++ '.' :: right) = splitDots left ++ splitDots right := by
  induction left with
  | nil => simp [splitDots]
  | cons c rest ih =>
      by_cases hc : c = '.'
      · simp [splitDots, hc, ih]
      · -- The first piece of the rest goes on with this character.
        obtain ⟨piece, pieces, hrest⟩ := List.exists_cons_of_ne_nil (splitDots_ne_nil rest)
        simp [splitDots, hc, ih, hrest]

theorem length_segments_pos (text : String) : 0 < (segments text).length := by
  refine List.length_pos_iff.2 fun hnil => ?_
  exact splitDots_ne_nil text.toList (by simpa [segments] using hnil)

theorem segments_of_isSegment {text : String} (h : IsSegment text) : segments text = [text] := by
  simp [segments, splitDots_of_notMem h]

theorem segments_append (left right : String) :
    segments (left ++ "." ++ right) = segments left ++ segments right := by
  simp [segments, splitDots_append]

/-- A text is a segment, or a segment and a rest after its first dot. -/
theorem isSegment_or_exists (text : String) :
    IsSegment text ∨ ∃ first rest, IsSegment first ∧ text = first ++ "." ++ rest := by
  by_cases h : '.' ∈ text.toList
  · obtain ⟨before, after, hsplit, hbefore⟩ := List.eq_append_cons_of_mem h
    refine .inr ⟨String.ofList before, String.ofList after, ?_, ?_⟩
    · simpa [IsSegment] using hbefore
    · apply String.toList_inj.1
      simp [hsplit]
  · exact .inl h

section

variable {text first second : String} {rest : List String}

theorem segments_eq_cons_iff : segments text = first :: rest ↔
    IsSegment first ∧
      (text = first ∧ rest = [] ∨ ∃ more, text = first ++ "." ++ more ∧ rest = segments more) := by
  constructor
  · intro h
    rcases isSegment_or_exists text with htext | ⟨head, more, hhead, rfl⟩
    · obtain ⟨rfl, rfl⟩ := List.cons.inj ((segments_of_isSegment htext).symm.trans h)
      exact ⟨htext, .inl ⟨rfl, rfl⟩⟩
    · rw [segments_append, segments_of_isSegment hhead] at h
      obtain ⟨rfl, rfl⟩ := List.cons.inj h
      exact ⟨hhead, .inr ⟨more, rfl, rfl⟩⟩
  · rintro ⟨hfirst, ⟨rfl, rfl⟩ | ⟨more, rfl, rfl⟩⟩
    · exact segments_of_isSegment hfirst
    · simp [segments_append, segments_of_isSegment hfirst]

/-- A text begins with two segments if it is nothing else, or if a dot comes after them. -/
theorem segments_eq_cons_cons_iff : segments text = first :: second :: rest ↔
    IsSegment first ∧ IsSegment second ∧
      (text = first ++ "." ++ second ∧ rest = [] ∨
        ∃ more, text = first ++ "." ++ second ++ "." ++ more ∧ rest = segments more) := by
  rw [segments_eq_cons_iff]
  constructor
  · rintro ⟨hfirst, ⟨-, h⟩ | ⟨tail, rfl, h⟩⟩
    · simp at h
    · obtain ⟨hsecond, ⟨rfl, rfl⟩ | ⟨more, rfl, rfl⟩⟩ := segments_eq_cons_iff.1 h.symm
      · exact ⟨hfirst, hsecond, .inl ⟨rfl, rfl⟩⟩
      · exact ⟨hfirst, hsecond, .inr ⟨more, by simp only [String.append_assoc], rfl⟩⟩
  · rintro ⟨hfirst, hsecond, ⟨rfl, rfl⟩ | ⟨more, rfl, rfl⟩⟩
    · exact ⟨hfirst, .inr ⟨second, rfl, (segments_of_isSegment hsecond).symm⟩⟩
    · refine ⟨hfirst, .inr ⟨second ++ "." ++ more, by simp only [String.append_assoc], ?_⟩⟩
      simp [segments_append, segments_of_isSegment hsecond]

theorem exists_segments_eq_iff (hfirst : IsSegment first) (hsecond : IsSegment second) :
    (∃ rest, segments text = first :: second :: rest) ↔
      text = first ++ "." ++ second ∨ ∃ more, text = first ++ "." ++ second ++ "." ++ more := by
  simp only [segments_eq_cons_cons_iff, hfirst, hsecond, true_and]
  constructor
  · rintro ⟨rest, ⟨h, -⟩ | ⟨more, h, -⟩⟩
    · exact .inl h
    · exact .inr ⟨more, h⟩
  · rintro (h | ⟨more, h⟩)
    · exact ⟨[], .inl ⟨h, rfl⟩⟩
    · exact ⟨segments more, .inr ⟨more, h, rfl⟩⟩

end

/-! ## The codes that are survived -/

/-- The class of the failures after which the server goes on. -/
def IsMild (kind : String) : Prop :=
  kind = "ClientError" ∨ kind = "TransientError"

/-- Category and title say that the request was not understood. -/
def IsIllFormed (rest : String) : Prop :=
  ∃ title, (title = "Invalid" ∨ title = "InvalidFormat") ∧
    (rest = "Request" ++ "." ++ title ∨ ∃ more, rest = "Request" ++ "." ++ title ++ "." ++ more)

/-- A namespace and a mild class, and what follows does not say that a request of the client was not
understood. -/
def IsSurvivable (code : String) : Prop :=
  ∃ space kind, IsSegment space ∧ IsMild kind ∧
    (code = space ++ "." ++ kind ∨
      ∃ rest, code = space ++ "." ++ kind ++ "." ++ rest ∧
        ¬ (kind = "ClientError" ∧ IsIllFormed rest))

theorem IsMild.isSegment {kind : String} (h : IsMild kind) : IsSegment kind := by
  rcases h with rfl | rfl <;> simp [IsSegment]

/-- The segments after a class say that the request was not understood. -/
def Misput (parts : List String) : Prop :=
  ∃ title more, (title = "Invalid" ∨ title = "InvalidFormat") ∧ parts = "Request" :: title :: more

theorem isIllFormed_iff_misput {rest : String} : IsIllFormed rest ↔ Misput (segments rest) := by
  have hrequest : IsSegment "Request" := by simp [IsSegment]
  have htitle {title : String} (h : title = "Invalid" ∨ title = "InvalidFormat") :
      IsSegment title := by
    rcases h with rfl | rfl <;> simp [IsSegment]
  constructor
  · rintro ⟨title, h, htext⟩
    obtain ⟨more, hmore⟩ := (exists_segments_eq_iff hrequest (htitle h)).2 htext
    exact ⟨title, more, h, hmore⟩
  · rintro ⟨title, more, h, hmore⟩
    exact ⟨title, h, (exists_segments_eq_iff hrequest (htitle h)).1 ⟨more, hmore⟩⟩

/-- The grammar in terms of segments. -/
theorem isSurvivable_iff_segments {code : String} : IsSurvivable code ↔
    ∃ space kind rest, segments code = space :: kind :: rest ∧ IsMild kind ∧
      ¬ (kind = "ClientError" ∧ Misput rest) := by
  constructor
  · rintro ⟨space, kind, hspace, hmild, hcode | ⟨more, hcode, hmeant⟩⟩
    · refine ⟨space, kind, [], ?_, hmild, by simp [Misput]⟩
      exact segments_eq_cons_cons_iff.2 ⟨hspace, hmild.isSegment, .inl ⟨hcode, rfl⟩⟩
    · refine ⟨space, kind, segments more, ?_, hmild, by rwa [← isIllFormed_iff_misput]⟩
      exact segments_eq_cons_cons_iff.2 ⟨hspace, hmild.isSegment, .inr ⟨more, hcode, rfl⟩⟩
  · rintro ⟨space, kind, rest, hsegments, hmild, hmeant⟩
    obtain ⟨hspace, -, ⟨hcode, -⟩ | ⟨more, hcode, rfl⟩⟩ := segments_eq_cons_cons_iff.1 hsegments
    · exact ⟨space, kind, hspace, hmild, .inl hcode⟩
    · exact ⟨space, kind, hspace, hmild, .inr ⟨more, hcode, by rwa [isIllFormed_iff_misput]⟩⟩

/-! ## The two looks at a code -/

/-- The segments that a code is judged by: class, category and title. -/
def judged (code : String) : List String :=
  ((segments code).drop 1).take 3

theorem judged_eq_iff {code kind category title : String} :
    judged code = [kind, category, title] ↔
      ∃ space more, segments code = space :: kind :: category :: title :: more := by
  constructor
  · intro h
    obtain ⟨space, parts, hsegments⟩ := List.exists_cons_of_ne_nil
      (fun hnil : segments code = [] => by simp [judged, hnil] at h)
    have hparts : parts.take 3 = [kind, category, title] := by
      simpa [judged, hsegments] using h
    refine ⟨space, parts.drop 3, ?_⟩
    calc
      segments code = space :: parts := hsegments
      _ = space :: (parts.take 3 ++ parts.drop 3) := by rw [List.take_append_drop]
      _ = space :: kind :: category :: title :: parts.drop 3 := by simp [hparts]
  · rintro ⟨space, more, h⟩
    simp [judged, h]

theorem mild_classOf_iff {code : String} :
    classOf code = .client ∨ classOf code = .transient ↔
      ∃ kind, IsMild kind ∧ (judged code).head? = some kind := by
  unfold classOf judged IsMild
  split
  next h => simp [h]
  next h => simp [h]
  next h => simp [h]
  next hclient htransient hdatabase =>
    rcases hsegments : segments code with _ | ⟨space, _ | ⟨kind, rest⟩⟩
    · simp
    · simp
    · have hc : kind ≠ "ClientError" := fun h => hclient space rest (h ▸ hsegments)
      have ht : kind ≠ "TransientError" := fun h => htransient space rest (h ▸ hsegments)
      simp [hc, ht]

theorem isProtocolViolation_iff {code : String} : isProtocolViolation code = true ↔
    ∃ title, (title = "Invalid" ∨ title = "InvalidFormat") ∧
      judged code = ["ClientError", "Request", title] := by
  unfold isProtocolViolation judged
  split
  next h => simp [h]
  next h => simp [h]
  next hinvalid hformat =>
    simp only [Bool.false_eq_true, false_iff]
    rintro ⟨title, htitle, h⟩
    obtain ⟨space, more, hsegments⟩ := judged_eq_iff.1 h
    rcases htitle with rfl | rfl
    · exact hinvalid space more hsegments
    · exact hformat space more hsegments

end StatusCode

namespace Error

open StatusCode

/-- Nothing but three segments after the namespace is looked at. -/
theorem isRecoverable_server_iff {code message : String} :
    (server code message).isRecoverable = true ↔
      (∃ kind, IsMild kind ∧ (judged code).head? = some kind) ∧
        ¬ ∃ title, (title = "Invalid" ∨ title = "InvalidFormat") ∧
          judged code = ["ClientError", "Request", title] := by
  rw [← mild_classOf_iff, ← isProtocolViolation_iff]
  simp [isRecoverable, and_comm]

theorem isRecoverable_iff_segments {code message : String} :
    (server code message).isRecoverable = true ↔
      ∃ space kind rest, segments code = space :: kind :: rest ∧ IsMild kind ∧
        ¬ (kind = "ClientError" ∧ Misput rest) := by
  rw [isRecoverable_server_iff]
  constructor
  · rintro ⟨⟨kind, hmild, hhead⟩, hmeant⟩
    rcases hsegments : segments code with _ | ⟨space, _ | ⟨kind', rest⟩⟩
    · simp [judged, hsegments] at hhead
    · simp [judged, hsegments] at hhead
    · obtain rfl : kind' = kind := by simpa [judged, hsegments] using hhead
      refine ⟨space, kind', rest, rfl, hmild, ?_⟩
      rintro ⟨rfl, title, more, htitle, rfl⟩
      exact hmeant ⟨title, htitle, judged_eq_iff.2 ⟨space, more, hsegments⟩⟩
  · rintro ⟨space, kind, rest, hsegments, hmild, hmeant⟩
    refine ⟨⟨kind, hmild, by simp [judged, hsegments]⟩, ?_⟩
    rintro ⟨title, htitle, h⟩
    obtain ⟨space', more, hsegments'⟩ := judged_eq_iff.1 h
    obtain ⟨-, hkind, hrest⟩ :
        space = space' ∧ kind = "ClientError" ∧ rest = "Request" :: title :: more := by
      simpa using hsegments.symm.trans hsegments'
    exact hmeant ⟨hkind, title, more, htitle, hrest⟩

/-- The recoverable errors of the server are those whose code is in the grammar. -/
theorem isRecoverable_iff_isSurvivable {code message : String} :
    (server code message).isRecoverable = true ↔ IsSurvivable code :=
  isRecoverable_iff_segments.trans isSurvivable_iff_segments.symm

/-- Codes that agree on the judged segments fare alike. -/
theorem isRecoverable_congr {code code' : String} (h : judged code = judged code')
    (message message' : String) :
    (server code message).isRecoverable = (server code' message').isRecoverable := by
  apply Bool.eq_iff_iff.2
  rw [isRecoverable_server_iff, isRecoverable_server_iff, h]

/-- It does not matter in which namespace the failure was. -/
theorem isRecoverable_namespace {space space' : String} (h : IsSegment space)
    (h' : IsSegment space') (rest message : String) :
    (server (space ++ "." ++ rest) message).isRecoverable =
      (server (space' ++ "." ++ rest) message).isRecoverable := by
  apply isRecoverable_congr
  simp [judged, segments_append, segments_of_isSegment h, segments_of_isSegment h']

/-- It does not matter what follows on four segments. -/
theorem isRecoverable_extended (a b c d more message : String) :
    (server (a ++ "." ++ b ++ "." ++ c ++ "." ++ d ++ "." ++ more) message).isRecoverable =
      (server (a ++ "." ++ b ++ "." ++ c ++ "." ++ d) message).isRecoverable := by
  apply isRecoverable_congr
  -- Each of the four texts has a segment at least, also if it is empty.
  have ha := length_segments_pos a
  have hb := length_segments_pos b
  have hc := length_segments_pos c
  have hd := length_segments_pos d
  have hfour : 4 ≤ (segments (a ++ "." ++ b ++ "." ++ c ++ "." ++ d)).length := by
    simp only [segments_append, List.length_append]
    omega
  simp only [judged, segments_append _ more]
  calc
    _ = ((segments (a ++ "." ++ b ++ "." ++ c ++ "." ++ d)).drop 1 ++ segments more).take 3 := by
      rw [List.drop_append_of_le_length (by omega)]
    _ = ((segments (a ++ "." ++ b ++ "." ++ c ++ "." ++ d)).drop 1).take 3 :=
      List.take_append_of_le_length (by rw [List.length_drop]; omega)

/-- Every error that the server did not report ends the use of the connection. -/
theorem isRecoverable_of_code? {e : Error} (h : e.code? = none) : e.isRecoverable = false := by
  cases e <;> first | rfl | simp [code?] at h

end Error

/-! ## Failed results -/

/-- Only two open states speak against a commit. -/
theorem State.eq_markedFailed_or_failed {state : State} (hopen : state.isOpen = true)
    (hmarked : State.markedFailed.rank ≤ state.rank) : state = .markedFailed ∨ state = .failed := by
  revert hopen hmarked
  cases state <;> decide

namespace Transaction

variable {t : Transaction} {e : Error}

/-- A failed result changes the state of an open transaction and nothing else. -/
theorem resultFailed_of_isOpen (h : t.isOpen = true) : t.resultFailed e =
    { t with state := if e.isRecoverable = true ∧ t.state ≠ .failed then .markedFailed
                      else .failed } := by
  rcases t with ⟨title, reported, state, bookmark, closing, holdings⟩
  cases hr : e.isRecoverable <;> cases state <;>
    simp [isOpen, State.isOpen, State.isTerminal, resultFailed, hr, markFailure, markFailed,
      State.markFailure, State.markFailed] at h ⊢

/-- The state that a failed result leaves an open transaction in. -/
theorem exists_state_resultFailed (h : t.isOpen = true) : ∃ state : State,
    t.resultFailed e = { t with state := state } ∧ state.isOpen = true ∧
      t.state.rank ≤ state.rank ∧ State.markedFailed.rank ≤ state.rank ∧
      (state = .failed ↔ e.isRecoverable = false ∨ t.state = .failed) := by
  refine ⟨_, resultFailed_of_isOpen h, ?_⟩
  have hopen : t.state.isOpen = true := h
  revert hopen
  cases e.isRecoverable <;> cases t.state <;> decide

end Transaction

namespace Error

open StatusCode

/-- An error is recoverable if the server reported it under a code of the grammar. A failed result
raises its open transaction accordingly, to the state that still allows for a rollback or to the
one that does not, and changes nothing else. -/
theorem classification :
    (∀ code message, (server code message).isRecoverable = true ↔ IsSurvivable code) ∧
      (∀ space space' rest message, IsSegment space → IsSegment space' →
        (server (space ++ "." ++ rest) message).isRecoverable =
          (server (space' ++ "." ++ rest) message).isRecoverable) ∧
      (∀ a b c d more message,
        (server (a ++ "." ++ b ++ "." ++ c ++ "." ++ d ++ "." ++ more) message).isRecoverable =
          (server (a ++ "." ++ b ++ "." ++ c ++ "." ++ d) message).isRecoverable) ∧
      (∀ e : Error, e.code? = none → e.isRecoverable = false) ∧
      ∀ (flavor : Flavor) (s : Client) (name : String) (place : Nat) (t : Transaction) (e : Error),
        Scenario.transaction? s name = some place → s.transactions[place]? = some t →
          t.isOpen = true → ∃ state : State,
            Scenario.perform flavor s (.resultFailed name e) =
                (.done, { s with transactions :=
                                  s.transactions.set place { t with state := state } }) ∧
              state.isOpen = true ∧ t.state.rank ≤ state.rank ∧
              State.markedFailed.rank ≤ state.rank ∧
              (state = .failed ↔ e.isRecoverable = false ∨ t.state = .failed) := by
  refine ⟨fun _ _ => isRecoverable_iff_isSurvivable, ?_, isRecoverable_extended,
    fun _ => isRecoverable_of_code?, ?_⟩
  · intro space space' rest message h h'
    exact isRecoverable_namespace h h' rest message
  · intro flavor s name place t e hname ht hopen
    obtain ⟨state, hstate, hkept⟩ := Transaction.exists_state_resultFailed (e := e) hopen
    refine ⟨state, ?_, hkept⟩
    have hmodify : s.transactions.modify place (Transaction.resultFailed e) =
        s.transactions.set place { t with state := state } := by
      have : Inhabited Transaction := ⟨t⟩
      rw [List.modify_eq_set, ht, Option.getD_some, hstate]
    simp [Scenario.perform, Scenario.change, Scenario.onTransaction, hname, ht,
      Client.updateTransaction, hmodify]

/-- A client error whose code has more segments than are judged, on a transaction that was to be
committed. -/
theorem classification_of_syntax_error :
    let t : Transaction :=
      { title := "tx", reported := false, state := .markedSuccess, holdings := [⟨"tx", true⟩] }
    let e : Error := server "Neo.ClientError.Statement.SyntaxError.1" "bad"
    IsSurvivable "Neo.ClientError.Statement.SyntaxError.1" ∧
      ¬ IsSurvivable ".ClientError.Request.Invalid" ∧
      (server ".ClientError.Statement.SyntaxError" "bad").isRecoverable = true ∧
      (canceled "abandoned").isRecoverable = false ∧
      (Scenario.perform .blocking { transactions := [t] } (.resultFailed "tx" e)).2.transactions =
        [{ t with state := .markedFailed }] := by
  intro t e
  obtain ⟨hgrammar, hspace, hmore, hothers, hraise⟩ := classification
  obtain ⟨state, hperform, hopen, -, hmarked, hfailed⟩ :=
    hraise .blocking { transactions := [t] } "tx" 0 t e (by decide) rfl (by decide)
  have hsurvived : e.isRecoverable = true := by decide
  have hbare : (server "Neo.ClientError.Statement.SyntaxError" "bad").isRecoverable = true :=
    (hmore "Neo" "ClientError" "Statement" "SyntaxError" "1" "bad").symm.trans hsurvived
  refine ⟨(hgrammar _ "bad").1 hsurvived, fun h => ?_, ?_, hothers _ rfl, ?_⟩
  · exact absurd ((hgrammar _ "bad").2 h) (by decide)
  · exact (hspace "" "Neo" "ClientError.Statement.SyntaxError" "bad" (by decide)
      (by decide)).trans hbare
  · have hnot : state ≠ .failed := fun h => absurd (hfailed.1 h) (by decide)
    have hstate : state = .markedFailed :=
      (State.eq_markedFailed_or_failed hopen hmarked).resolve_right hnot
    rw [hperform, hstate]
    rfl

end Error

end ClientTransaction
