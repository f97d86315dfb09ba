import AgentMate.ContextBudget

/-! # The messages between the summary and the recent history -/

namespace AgentMate.SessionContext

open List

def sourceBudget (settings : Settings) (existingSummary : String) : Int :=
  let budget := settings.summarySourceTokenBudget
  if existingSummary = "" then budget
  else budget - min (max 400 (budget / 4)) (approxTokens existingSummary)

def ClippedFrom (message shown : Message) : Prop :=
  shown = message ∨ ∃ budget, shown = { message with content := clipText message.content budget }

def Shown (valid recent : List Message) (index : Nat) : Prop :=
  ∃ place message shown, place + valid.length = index + recent.length ∧
    valid[index]? = some message ∧ recent[place]? = some shown ∧ ClippedFrom message shown

/-- The cursor of the summary that an undegraded request includes. -/
def includedCursor (streamChat : StreamChat) (settings : Settings) (session : Session)
    (stored : StoredSession) (history : List Message) (historyTokenBudget : Option Int) : Int :=
  let budget := historyBudget settings historyTokenBudget
  let (pending, cursor) := pendingMessages session history
  let oldCount := (recentSuffix pending (min settings.recentTokenBudget budget)).2
  if approxTokens session.summary + messagesTokens pending ≤ budget ∨ oldCount = 0 then cursor
  else
    let reached : Int :=
      cursor + (summaryChunk settings session.summary (pending.take oldCount)).length
    match generateSummary streamChat settings session.summary
        (summaryChunk settings session.summary (pending.take oldCount)), stored.atUpdate with
    | .ok generated, .ok row =>
      if (updateSessionSummary row cursor generated.content reached).2 then reached
      else
        match stored.afterUpdate with
        | .ok (some latest) => latest.summaryCursor
        | _ => cursor
    | _, _ => cursor

def NoGap (cursor : Int) (valid recent : List Message) : Prop :=
  ∀ index, index < valid.length → (index : Int) < cursor ∨ Shown valid recent index

def cursorKept (stored : StoredSession) (cursor : Int) : Bool :=
  match stored.atUpdate with
  | .ok (some row) => decide (row.summaryCursor = cursor)
  | _ => false

/-- The older turns but their last message fill less than one call of the summary model, and the
stored cursor did not move; or the summary that is stored by then reaches the recent turns. -/
def OlderCovered (settings : Settings) (session : Session) (stored : StoredSession)
    (cursor : Nat) (old : List Message) : Prop :=
  if cursorKept stored cursor then
    old.length ≤ 1 ∨ messagesTokens old.dropLast < sourceBudget settings session.summary
  else
    ∃ latest, stored.afterUpdate = .ok (some latest) ∧ cursor + old.length ≤ latest.summaryCursor

theorem messages_tokens_cons (message : Message) (rest : List Message) :
    messagesTokens (message :: rest) = messageTokens message + messagesTokens rest := rfl

theorem select_chunk_length_le (messages : List Message) :
    ∀ (remaining : Int) (selected : List Message),
      selected.length ≤ (selectChunk remaining selected messages).length ∧
        (selectChunk remaining selected messages).length ≤ selected.length + messages.length := by
  induction messages with
  | nil => simp [selectChunk]
  | cons message rest ih =>
    intro remaining selected
    have later := ih (remaining - min (messageTokens message : Int) (max 1 remaining))
      (selected ++ [message])
    simp only [selectChunk, length_append, length_cons, length_nil] at later ⊢
    split
    · omega
    split
    · simp
    · omega

theorem select_chunk_all (messages : List Message) :
    ∀ (remaining : Int) (selected : List Message), (selected ≠ [] → 0 < remaining) →
      ((selectChunk remaining selected messages).length = selected.length + messages.length ↔
        messages.length ≤ 1 ∨ messagesTokens messages.dropLast < remaining) := by
  induction messages with
  | nil => simp [selectChunk]
  | cons message rest ih =>
    intro remaining selected positive
    have cost : (4 : Int) ≤ messageTokens message := by
      rw [messageTokens]
      omega
    rw [selectChunk]
    split
    · next full =>
      have left := positive full.1
      omega
    split
    · next spent =>
      cases rest with
      | nil => simp
      | cons next rest =>
        rw [dropLast_cons_cons, messages_tokens_cons]
        simp only [length_append, length_cons, length_nil]
        omega
    · next left =>
      have whole : min (messageTokens message : Int) (max 1 remaining) = messageTokens message := by
        omega
      have later := ih (remaining - messageTokens message) (selected ++ [message]) (by omega)
      rw [whole] at left ⊢
      rw [length_append, length_singleton, Nat.add_assoc, Nat.add_comm 1] at later
      rw [length_cons, later]
      cases rest with
      | nil => simp
      | cons next rest =>
        rw [dropLast_cons_cons, messages_tokens_cons]
        cases rest with
        | nil =>
          simp [messagesTokens]
          omega
        | cons third rest =>
          simp only [length_cons]
          omega

theorem summary_chunk_all (settings : Settings) (existingSummary : String)
    (messages : List Message) :
    (summaryChunk settings existingSummary messages).length = messages.length ↔
      messages.length ≤ 1 ∨
        messagesTokens messages.dropLast < sourceBudget settings existingSummary := by
  have loop := select_chunk_all messages (sourceBudget settings existingSummary) [] (by simp)
  rw [length_nil, Nat.zero_add] at loop
  exact loop

theorem select_recent_suffix (tokenBudget : Int) :
    ∀ (earlier : List (List Message)) (used : Nat) (selected : List (List Message)),
      selectRecent tokenBudget selected used earlier <:+ earlier.reverse ++ selected
  | [], used, selected => suffix_refl selected
  | turn :: earlier, used, selected => by
      rw [reverse_cons, append_assoc, singleton_append]
      rw [selectRecent]
      split
      · exact (suffix_cons turn selected).trans (suffix_append _ _)
      split
      · exact suffix_append _ _
      · exact select_recent_suffix tokenBudget earlier _ (turn :: selected)

theorem recent_suffix_drop (messages : List Message) (tokenBudget : Int) :
    (recentSuffix messages tokenBudget).1 = messages.drop (recentSuffix messages tokenBudget).2 ∧
      (recentSuffix messages tokenBudget).2 ≤ messages.length := by
  have suffix := select_recent_suffix tokenBudget (turns messages).reverse 0 []
  rw [reverse_reverse, append_nil] at suffix
  have flat : (recentSuffix messages tokenBudget).1 <:+ messages := by
    have parts := List.IsSuffix.flatten suffix
    rwa [turns, turns_from_flatten] at parts
  exact ⟨suffix_iff_eq_drop.mp flat, Nat.sub_le _ _⟩

theorem fit_recent_clipped (messages : List Message) (tokenBudget : Int) :
    List.Forall₂ ClippedFrom messages (fitRecent messages tokenBudget) := by
  rw [fitRecent]
  split
  · exact List.forall₂_same.mpr fun _ _ => .inl rfl
  · rw [List.forall₂_map_right_iff]
    exact List.forall₂_same.mpr fun _ _ => .inr ⟨_, rfl⟩

section

variable {valid recent : List Message} {skipped : Nat}

theorem shown_iff (clipped : List.Forall₂ ClippedFrom (valid.drop skipped) recent)
    (low : skipped ≤ valid.length) {index : Nat} (inside : index < valid.length) :
    Shown valid recent index ↔ skipped ≤ index := by
  have count : valid.length - skipped = recent.length := by
    rw [← clipped.length_eq, length_drop]
  constructor
  · rintro ⟨place, -, -, same, -⟩
    omega
  · intro later
    have place : index - skipped < (valid.drop skipped).length := by
      rw [length_drop]
      omega
    have shownPlace : index - skipped < recent.length := by omega
    refine ⟨index - skipped, _, _, by omega, getElem?_eq_getElem inside,
      getElem?_eq_getElem shownPlace, ?_⟩
    have pair := clipped.get place shownPlace
    simp only [get_eq_getElem, getElem_drop] at pair
    have same : skipped + (index - skipped) = index := by omega
    simpa only [same] using pair

theorem no_gap_iff (clipped : List.Forall₂ ClippedFrom (valid.drop skipped) recent)
    (low : skipped ≤ valid.length) (cursor : Int) :
    NoGap cursor valid recent ↔ skipped ≤ max 0 cursor := by
  constructor
  · intro whole
    by_contra gap
    have inside : (max 0 cursor).toNat < valid.length := by omega
    rcases whole _ inside with before | shown
    · omega
    · rw [shown_iff clipped low inside] at shown
      omega
  · intro reached index inside
    rw [shown_iff clipped low inside]
    omega

end

section

variable {streamChat : StreamChat} {settings : Settings} {session : Session}
  {stored : StoredSession} {history : List Message} {historyTokenBudget : Option Int}

theorem pending_cursor_le (session : Session) (history : List Message) :
    (pendingMessages session history).2 ≤ (validMessages history).length := by
  show (max 0 (min session.summaryCursor (validMessages history).length)).toNat ≤ _
  omega

theorem updated_iff {row : Option Session} {cursor reached : Int} (summary : String)
    (read : stored.atUpdate = .ok row) (further : cursor < reached) :
    (updateSessionSummary row cursor summary reached).2 = cursorKept stored cursor := by
  have later : ¬reached ≤ cursor := Int.not_le.mpr further
  rw [cursorKept, read]
  cases row with
  | none => simp [updateSessionSummary, later]
  | some row =>
    simp only [updateSessionSummary, later, if_false]
    split
    · next same => exact (decide_eq_true same).symm
    · next moved => exact (decide_eq_false moved).symm

theorem chunk_pos {settings : Settings} {existingSummary : String} {messages : List Message}
    (filled : messages ≠ []) : 0 < (summaryChunk settings existingSummary messages).length := by
  change 0 < (selectChunk (sourceBudget settings existingSummary) [] messages).length
  cases messages with
  | nil => exact absurd rfl filled
  | cons message rest =>
    rw [selectChunk, if_neg fun full => full.1 rfl]
    split
    · simp
    · exact (select_chunk_length_le rest _ [message]).1

theorem included_reaches (large : ¬((approxTokens session.summary +
      messagesTokens (pendingMessages session history).1 : Int) ≤
        historyBudget settings historyTokenBudget ∨
      (recentSuffix (pendingMessages session history).1 (min settings.recentTokenBudget
        (historyBudget settings historyTokenBudget))).2 = 0))
    {old : List Message} (taken : old = (pendingMessages session history).1.take
      (recentSuffix (pendingMessages session history).1 (min settings.recentTokenBudget
        (historyBudget settings historyTokenBudget))).2)
    (filled : old ≠ []) {summary : String}
    (compacted : (compact streamChat settings session stored (pendingMessages session history).2
      (summaryChunk settings session.summary old)).summary = .ok summary) :
    ((pendingMessages session history).2 + old.length : Int) ≤
        max 0 (includedCursor streamChat settings session stored history historyTokenBudget) ↔
      OlderCovered settings session stored (pendingMessages session history).2 old := by
  generalize reach : includedCursor streamChat settings session stored history
    historyTokenBudget = cursor
  have shape := reach.symm
  rw [includedCursor] at shape
  dsimp only at shape
  rw [if_neg large, ← taken] at shape
  have all := summary_chunk_all settings session.summary old
  have most := (select_chunk_length_le old (sourceBudget settings session.summary) []).2
  have short : (summaryChunk settings session.summary old).length ≤ old.length := by
    rw [length_nil, Nat.zero_add] at most
    exact most
  have begun : 0 < (summaryChunk settings session.summary old).length := chunk_pos filled
  have positive := length_pos_iff.mpr filled
  rw [compact] at compacted
  cases made : generateSummary streamChat settings session.summary
      (summaryChunk settings session.summary old) with
  | error exception =>
    rw [made] at compacted
    cases compacted
  | ok generated =>
    rw [made] at shape compacted
    cases read : stored.atUpdate with
    | error exception =>
      rw [read] at compacted
      cases compacted
    | ok row =>
      rw [read] at shape compacted
      have further : ((pendingMessages session history).2 : Int) <
          (pendingMessages session history).2 +
            (summaryChunk settings session.summary old).length := by omega
      have updated := updated_iff generated.content read further
      dsimp only at shape
      rw [updated] at shape
      rw [OlderCovered, shape]
      split
      · rw [← all]
        omega
      · next moved =>
        have result : (do
            return ((← stored.afterUpdate).map Session.summary).getD session.summary) =
              Except.ok summary := by
          simpa [bind, Except.bind, updated, moved] using compacted
        cases after : stored.afterUpdate with
        | error exception =>
          rw [after] at result
          cases result
        | ok latest =>
          cases latest with
          | none =>
            simp
            omega
          | some latest =>
            simp
            omega

theorem fitted_clipped (session : Session) (history : List Message) (recentBudget : Int) :
    List.Forall₂ ClippedFrom ((validMessages history).drop ((pendingMessages session history).2 +
        (recentSuffix (pendingMessages session history).1 recentBudget).2))
      (fitRecent (recentSuffix (pendingMessages session history).1 recentBudget).1
        recentBudget) := by
  have suffix := (recent_suffix_drop (pendingMessages session history).1 recentBudget).1
  have clipped := fit_recent_clipped
    (recentSuffix (pendingMessages session history).1 recentBudget).1 recentBudget
  rw [← drop_drop]
  change List.Forall₂ ClippedFrom ((pendingMessages session history).1.drop
    (recentSuffix (pendingMessages session history).1 recentBudget).2) _
  rw [← suffix]
  exact clipped

theorem included_cursor_whole (whole : (approxTokens session.summary +
      messagesTokens (pendingMessages session history).1 : Int) ≤
        historyBudget settings historyTokenBudget ∨
      (recentSuffix (pendingMessages session history).1 (min settings.recentTokenBudget
        (historyBudget settings historyTokenBudget))).2 = 0) :
    includedCursor streamChat settings session stored history historyTokenBudget =
      (pendingMessages session history).2 := by
  rw [includedCursor]
  dsimp only
  rw [if_pos whole]

end

/-- The older turns are covered, or there are none: the history fits, or the recent turns are all
that is after the cursor. -/
def SummaryMeets (settings : Settings) (session : Session) (stored : StoredSession)
    (history : List Message) (historyTokenBudget : Option Int) : Prop :=
  let budget := historyBudget settings historyTokenBudget
  let (pending, cursor) := pendingMessages session history
  let old := pending.take (recentSuffix pending (min settings.recentTokenBudget budget)).2
  approxTokens session.summary + messagesTokens pending ≤ budget ∨ old = [] ∨
    OlderCovered settings session stored cursor old

/-- The recent history of a request that does not report a degraded context shows the messages
from an index on, and the included summary reaches that index when it meets the recent turns. -/
theorem undegraded_context (streamChat : StreamChat) (settings : Settings) (session : Session)
    (stored : StoredSession) (history : List Message) (newUserText systemPrompt : String)
    (historyTokenBudget : Option Int)
    (undegraded : (buildLlmContext streamChat settings session stored history newUserText
      systemPrompt historyTokenBudget).compactionDegraded = false) :
    ∃ skipped, skipped ≤ (validMessages history).length ∧
      List.Forall₂ ClippedFrom ((validMessages history).drop skipped)
        (recentHistory (buildLlmContext streamChat settings session stored history newUserText
          systemPrompt historyTokenBudget).messages) ∧
      ((skipped : Int) ≤ max 0 (includedCursor streamChat settings session stored history
          historyTokenBudget) ↔
        SummaryMeets settings session stored history historyTokenBudget) := by
  generalize made : buildLlmContext streamChat settings session stored history newUserText
    systemPrompt historyTokenBudget = result at undegraded ⊢
  have low := pending_cursor_le session history
  have rest : (pendingMessages session history).1 =
    (validMessages history).drop (pendingMessages session history).2 := rfl
  have spoken : ∀ message ∈ (pendingMessages session history).1, message.role ≠ "system" :=
    fun _ mem => pending_spoken mem
  rw [buildLlmContext] at made
  rw [SummaryMeets]
  dsimp only at made ⊢
  generalize sized : min settings.recentTokenBudget (historyBudget settings historyTokenBudget) =
    recentBudget at made ⊢
  split at made
  · next small =>
    subst made
    rw [included_cursor_whole (.inl small), ContextBuildResult.plain,
      recent_history_assemble spoken]
    have same : List.Forall₂ ClippedFrom
        ((validMessages history).drop (pendingMessages session history).2)
        (pendingMessages session history).1 := List.forall₂_same.mpr fun _ _ => .inl rfl
    exact ⟨_, low, same, iff_of_true (le_max_right _ _) (.inl small)⟩
  · next large =>
    have clipped := fitted_clipped session history recentBudget
    have few := (recent_suffix_drop (pendingMessages session history).1 recentBudget).2
    rw [rest, length_drop, ← rest] at few
    have said : ∀ message ∈ fitRecent
        (recentSuffix (pendingMessages session history).1 recentBudget).1 recentBudget,
        message.role ≠ "system" :=
      fit_recent_spoken fun message mem => spoken message (recent_suffix_mem mem)
    split at made
    · next none =>
      subst made
      rw [included_cursor_whole (.inr (sized ▸ none)), ContextBuildResult.plain,
        recent_history_assemble said]
      rw [none] at clipped few ⊢
      exact ⟨_, low, clipped, iff_of_true (le_max_right _ _) (.inr (.inl rfl))⟩
    · next older =>
      have filled : (pendingMessages session history).1.take
          (recentSuffix (pendingMessages session history).1 recentBudget).2 ≠ [] := by
        rw [← length_pos_iff, length_take, rest, length_drop, ← rest]
        omega
      split at made
      · next summary compacted =>
        subst made
        rw [recent_history_assemble said]
        refine ⟨_, ?_, clipped, ?_⟩
        · omega
        subst sized
        have reaches := included_reaches (not_or.mpr ⟨large, older⟩) rfl filled compacted
        rw [length_take, rest, length_drop, ← rest, Nat.min_eq_left few] at reaches
        rw [Nat.cast_add, reaches]
        constructor
        · exact fun covered => .inr (.inr covered)
        · rintro (fits | empty | covered)
          · exact absurd fits large
          · exact absurd empty filled
          · exact covered
      · subst made
        cases undegraded

/-- A request that does not report a degraded context leaves no message out between the summary
and the recent history exactly when the summary meets the recent turns. -/
theorem context_without_gap (streamChat : StreamChat) (settings : Settings) (session : Session)
    (stored : StoredSession) (history : List Message) (newUserText systemPrompt : String)
    (historyTokenBudget : Option Int)
    (undegraded : (buildLlmContext streamChat settings session stored history newUserText
      systemPrompt historyTokenBudget).compactionDegraded = false) :
    NoGap (includedCursor streamChat settings session stored history historyTokenBudget)
        (validMessages history)
        (recentHistory (buildLlmContext streamChat settings session stored history newUserText
          systemPrompt historyTokenBudget).messages) ↔
      SummaryMeets settings session stored history historyTokenBudget := by
  obtain ⟨skipped, low, clipped, reaches⟩ := undegraded_context streamChat settings session stored
    history newUserText systemPrompt historyTokenBudget undegraded
  exact (no_gap_iff clipped low _).trans reaches

def shortStream : StreamChat := fun _ => .ok [⟨some "摘要", none⟩]

def unsummarised : StoredSession := ⟨.ok (some ⟨"", 0⟩), .ok none⟩

def longHistory (first second : String) : List Message :=
  [⟨"user", first⟩, ⟨"user", second⟩, ⟨"user", "今"⟩]

def longContext (first second : String) : ContextBuildResult :=
  buildLlmContext shortStream ⟨60000, 24000, 2000⟩ ⟨"", 0⟩ unsummarised (longHistory first second)
    "" "" (some 256)

theorem short_summary (settings : Settings) (existingSummary : String) (chunk : List Message) :
    generateSummary shortStream settings existingSummary chunk = .ok ⟨"摘要", 0, 0, 0⟩ := by
  have stripped : PlainText.strip "摘要" = "摘要" := by decide +kernel
  simp [generateSummary, shortStream, addDelta, stripped, bind, Except.bind]

theorem long_undegraded (first second : String) :
    (longContext first second).compactionDegraded = false := by
  rw [longContext, buildLlmContext]
  dsimp only
  split
  · rfl
  split
  · rfl
  split
  · rfl
  · next compacted =>
    simp only [compact, short_summary, unsummarised, bind, Except.bind] at compacted
    split at compacted <;> cases compacted

section

variable {first second : String} {count : Nat} (size : approxTokens first = count + 1)
  (middle : approxTokens second = 300)
include size middle

theorem long_pending :
    pendingMessages ⟨"", 0⟩ (longHistory first second) = (longHistory first second, 0) := by
  have filled : first ≠ "" := by
    rintro rfl
    cases size
  have next : second ≠ "" := by
    rintro rfl
    cases middle
  have valid : validMessages (longHistory first second) = longHistory first second := by
    simp [validMessages, longHistory, filled, next]
  rw [pendingMessages, valid]
  rfl

omit size in
theorem second_cost : messageTokens ⟨"user", second⟩ = 304 := by
  rw [messageTokens, middle]

omit size in
theorem long_older :
    (longHistory first second).take (recentSuffix (longHistory first second) 256).2 =
      [⟨"user", first⟩, ⟨"user", second⟩] := by
  have short : messageTokens ⟨"user", "今"⟩ = 5 := by decide +kernel
  have older : (recentSuffix (longHistory first second) 256).2 = 2 := by
    simp [recentSuffix, longHistory, turns, turnsFrom, selectRecent, messagesTokens,
      second_cost middle, short]
  rw [older]
  rfl

/-- The one call of the summary model has to take the first of the two older messages and leave
room for the second. -/
theorem long_summary_meets :
    SummaryMeets ⟨60000, 24000, 2000⟩ ⟨"", 0⟩ unsummarised (longHistory first second) (some 256) ↔
      count + 5 < 2000 := by
  have budget : historyBudget ⟨60000, 24000, 2000⟩ (some 256) = 256 := rfl
  have recent : min (24000 : Int) 256 = 256 := rfl
  have cost : messageTokens ⟨"user", first⟩ = count + 5 := by
    rw [messageTokens, size]
    omega
  rw [SummaryMeets, long_pending size middle, budget]
  dsimp only
  rw [recent, long_older middle]
  constructor
  · rintro (fits | none | few | fits)
    · have large : 304 ≤ messagesTokens (longHistory first second) := by
        simp only [longHistory, messages_tokens_cons, second_cost middle]
        omega
      omega
    · cases none
    · simp at few
    · have room : (count : Int) + 5 < 2000 := by
        simpa [messagesTokens, cost, sourceBudget] using fits
      omega
  · intro room
    have fits : (count : Int) + 5 < 2000 := by omega
    refine .inr (.inr (.inr ?_))
    simpa [messagesTokens, cost, sourceBudget] using fits

end

/-- Two older messages, and room for both in one call. -/
theorem short_context_without_gap :
    NoGap (includedCursor shortStream ⟨60000, 24000, 2000⟩ ⟨"", 0⟩ unsummarised
        (longHistory (wideText 300) (wideText 300)) (some 256))
      (validMessages (longHistory (wideText 300) (wideText 300)))
      (recentHistory (longContext (wideText 300) (wideText 300)).messages) :=
  (context_without_gap _ _ _ _ _ _ _ _ (long_undegraded _ _)).mpr
    ((long_summary_meets (wide_tokens 299) (wide_tokens 299)).mpr (by decide))

theorem long_context_gap : (longContext (wideText 2000) (wideText 300)).compactionDegraded = false ∧
      ¬NoGap (includedCursor shortStream ⟨60000, 24000, 2000⟩ ⟨"", 0⟩ unsummarised
          (longHistory (wideText 2000) (wideText 300)) (some 256))
        (validMessages (longHistory (wideText 2000) (wideText 300)))
        (recentHistory (longContext (wideText 2000) (wideText 300)).messages) := by
  refine ⟨long_undegraded _ _, ?_⟩
  intro whole
  obtain ⟨skipped, low, clipped, reaches⟩ := undegraded_context shortStream _ _ unsummarised
    (longHistory (wideText 2000) (wideText 300)) "" "" (some 256) (long_undegraded _ _)
  have covered := (long_summary_meets (wide_tokens 1999) (wide_tokens 299)).mp
    (reaches.mp ((no_gap_iff clipped low _).mp whole))
  exact absurd covered (by decide)

end AgentMate.SessionContext
