import AgentMate.SessionContext

/-! # The history budget of a request -/

namespace AgentMate.SessionContext

open PlainText RoundedDoubles List

theorem quarters_append (left right : String) :
    quarters (left ++ right) = quarters left + quarters right := by
  simp [quarters]

theorem quarters_pos {text : String} (filled : text ≠ "") : 0 < quarters text := by
  have chars : text.toList ≠ [] := fun empty => filled (String.toList_eq_nil_iff.mp empty)
  obtain ⟨head, rest, split⟩ := exists_cons_of_ne_nil chars
  have weight : 0 < charQuarters head := by
    rw [charQuarters]
    split <;> decide
  simp only [quarters, split, map_cons, sum_cons]
  omega

theorem approx_tokens_le {text : String} {bound : Nat} (fits : quarters text ≤ 4 * bound) :
    approxTokens text ≤ bound := by
  rw [approxTokens]
  split
  · exact Nat.zero_le bound
  · rename_i filled
    have := quarters_pos filled
    omega

theorem quarters_le_tokens (text : String) : quarters text ≤ 4 * approxTokens text := by
  rw [approxTokens]
  split
  · rename_i empty
    simp [empty, quarters]
  · omega

theorem strip_tokens (text : String) : approxTokens (strip text) ≤ approxTokens text :=
  approx_tokens_le ((sublist_weight (strip_sublist text)).trans (quarters_le_tokens text))

theorem marker_tokens : approxTokens marker = 5 := by decide +kernel

theorem seven_tenths_le (available : Nat) : sevenTenths available ≤ available :=
  scale_down_le (by decide) available

theorem take_prefix_quarters (chars : List Char) (budget : Nat) :
    quarters (String.ofList (takePrefix chars budget)) ≤ 4 * budget := by
  rw [quarters, String.toList_ofList]
  exact take_within_weight charQuarters (4 * budget) chars

theorem quarters_reverse (chars : List Char) :
    quarters (String.ofList chars.reverse) = quarters (String.ofList chars) := by
  simp [quarters]

theorem clip_text_tokens (text : String) (tokenBudget : Int) :
    (approxTokens (clipText text tokenBudget) : Int) ≤ max tokenBudget 5 := by
  rw [clipText]
  split
  · rename_i fits
    exact fits.trans (le_max_left _ _)
  split
  · have least := strip_tokens marker
    rw [marker_tokens] at least
    exact (Int.ofNat_le.mpr least).trans (le_max_right _ _)
  · rename_i room
    rw [marker_tokens] at room ⊢
    dsimp only
    generalize rest : (tokenBudget - ((5 : Nat) : Int)).toNat = available
    have some_left : 1 ≤ available := by omega
    have front_le := seven_tenths_le available
    generalize fronts : max 1 (sevenTenths available) = frontBudget
    have front := take_prefix_quarters text.toList frontBudget
    have back : quarters (String.ofList (if available - frontBudget = 0 then [] else
        (takePrefix text.toList.reverse (available - frontBudget)).reverse)) ≤
          4 * (available - frontBudget) := by
      split
      · simp [quarters]
      · rw [quarters_reverse]
        exact take_prefix_quarters _ _
    have marked := quarters_le_tokens marker
    rw [marker_tokens] at marked
    have total : approxTokens (String.ofList (takePrefix text.toList frontBudget) ++ marker ++
        String.ofList (if available - frontBudget = 0 then [] else
          (takePrefix text.toList.reverse (available - frontBudget)).reverse)) ≤ available + 5 := by
      apply approx_tokens_le
      rw [quarters_append, quarters_append]
      omega
    omega

/-- A budget that has room for the marker is kept, and a text within its budget is not clipped. -/
theorem clip_text_within (text : String) (tokenBudget : Int) :
    ((approxTokens marker : Int) ≤ tokenBudget →
      (approxTokens (clipText text tokenBudget) : Int) ≤ tokenBudget) ∧
    ((approxTokens text : Int) ≤ tokenBudget → clipText text tokenBudget = text) := by
  constructor
  · intro room
    have within := clip_text_tokens text tokenBudget
    rw [marker_tokens] at room
    exact within.trans (max_le le_rfl room)
  · exact fun fits => if_pos fits

theorem mixed_text_clipped : (approxTokens (clipText "甲乙丙丁戊己庚辛壬癸 abcdefgh" 7) : Int) ≤ 7 :=
  (clip_text_within "甲乙丙丁戊己庚辛壬癸 abcdefgh" 7).1 (by decide +kernel)

variable {messages : List Message} {tokenBudget : Int}

theorem messages_tokens_le {bound : Nat}
    (each : ∀ message ∈ messages, messageTokens message ≤ bound) :
    messagesTokens messages ≤ messages.length * bound := by
  have total := sum_le_card_nsmul (messages.map messageTokens) bound (by
    intro cost listed
    obtain ⟨message, mem, rfl⟩ := mem_map.mp listed
    exact each message mem)
  simpa [messagesTokens] using total

theorem equal_shares (budget : Int) (count : Nat) :
    count * (4 + max (max 1 (max 1 (budget - 4 * count) / (max 1 count : Nat))) 5) ≤
      max budget (9 * count) := by
  rcases Nat.eq_zero_or_pos count with rfl | filled
  · simp
  rw [max_eq_right (show 1 ≤ count from filled)]
  have quotient := Int.ediv_mul_le (max 1 (budget - 4 * count)) (show (count : Int) ≠ 0 by omega)
  generalize max 1 (budget - 4 * count) / (count : Int) = share at quotient
  by_cases large : 5 < share
  · have least : 6 ≤ share * count := by
      have scaled := Int.mul_le_mul (show (6 : Int) ≤ share by omega)
        (show (1 : Int) ≤ count by omega) (by decide) (by omega)
      omega
    rw [max_eq_right (show 1 ≤ share by omega), max_eq_left (show 5 ≤ share by omega),
      Int.mul_add, Int.mul_comm _ share]
    omega
  · rw [max_eq_right (show max 1 share ≤ 5 by omega)]
    omega

theorem fit_recent_tokens (messages : List Message) (tokenBudget : Int) :
    (messagesTokens (fitRecent messages tokenBudget) : Int) ≤
      max tokenBudget (9 * messages.length) := by
  rw [fitRecent]
  split
  · rename_i fits
    exact fits.trans (le_max_left _ _)
  · refine le_trans ?_ (equal_shares tokenBudget messages.length)
    simp only []
    generalize max (1 : Int) (max 1 (tokenBudget - 4 * messages.length) /
      (max 1 messages.length : Nat)) = perMessage
    have each := @messages_tokens_le (messages.map fun message =>
      { message with content := clipText message.content perMessage })
        (4 + max perMessage 5).toNat (by
          intro clipped listed
          obtain ⟨message, -, rfl⟩ := mem_map.mp listed
          have clip := clip_text_tokens message.content perMessage
          simp only [messageTokens]
          omega)
    have whole := Int.ofNat_le.mpr each
    rw [Int.natCast_mul, length_map, Int.toNat_of_nonneg (by omega)] at whole
    exact whole

theorem fit_recent_length (messages : List Message) (tokenBudget : Int) :
    (fitRecent messages tokenBudget).length = messages.length := by
  rw [fitRecent]
  split
  · rfl
  · exact length_map _

theorem turns_from_flatten (current messages : List Message) :
    (turnsFrom current messages).flatten = current ++ messages := by
  induction messages generalizing current with
  | nil =>
    rw [turnsFrom]
    split <;> simp [*]
  | cons message rest ih =>
    rw [turnsFrom]
    split
    · rw [flatten_cons, ih]
      rfl
    · rw [ih, append_assoc]
      rfl

theorem select_recent_mem {turn : List Message} :
    ∀ {used : Nat} {selected earlier : List (List Message)},
      turn ∈ selectRecent tokenBudget selected used earlier → turn ∈ selected ∨ turn ∈ earlier
  | used, selected, [], mem => Or.inl mem
  | used, selected, next :: earlier, mem => by
      simp only [selectRecent] at mem
      split at mem
      · exact Or.inl mem
      split at mem
      · rcases mem_cons.mp mem with rfl | old
        · exact Or.inr mem_cons_self
        · exact Or.inl old
      · rcases select_recent_mem mem with taken | listed
        · rcases mem_cons.mp taken with rfl | old
          · exact Or.inr mem_cons_self
          · exact Or.inl old
        · exact Or.inr (mem_cons_of_mem next listed)

theorem recent_suffix_mem {message : Message}
    (mem : message ∈ (recentSuffix messages tokenBudget).1) : message ∈ messages := by
  obtain ⟨turn, selected, inTurn⟩ := mem_flatten.mp mem
  rcases select_recent_mem selected with none_yet | listed
  · cases none_yet
  · rw [mem_reverse] at listed
    have whole := mem_flatten.mpr ⟨turn, listed, inTurn⟩
    rw [turns, turns_from_flatten] at whole
    exact whole

def dropHeading (headings : List Heading) (content : String) : String :=
  match headings.find? fun heading => heading.title.toList.isPrefixOf content.toList with
  | some heading =>
    String.ofList (content.toList.drop (heading.title.toList ++ heading.note.toList).length)
  | none => content

def historyPart (messages : List Message) : List Message := messages.tail.dropLast

def partTokens (message : Message) : Nat :=
  if message.role = "system" then
      approxTokens (dropHeading [summaryHeading, excerptHeading] message.content)
  else messageTokens message

def historyTokens (messages : List Message) : Nat := ((historyPart messages).map partTokens).sum

def recentHistory (messages : List Message) : List Message :=
  (historyPart messages).filter fun message => message.role ≠ "system"

section

variable (heading : Heading) (text : String)

theorem heading_text : (heading.title ++ heading.note ++ text).toList =
    heading.title.toList ++ (heading.note.toList ++ text.toList) := by
  rw [String.toList_append, String.toList_append, append_assoc]

theorem starts_heading :
    heading.title.toList.isPrefixOf (heading.title ++ heading.note ++ text).toList = true := by
  rw [List.isPrefixOf_iff_prefix, heading_text]
  exact prefix_append _ _

theorem drop_first_heading (later : List Heading) :
    dropHeading (heading :: later) (heading.title ++ heading.note ++ text) = text := by
  rw [dropHeading, find?_cons, starts_heading]
  simp only [heading_text, ← append_assoc, drop_left, String.ofList_toList]

variable {heading text}

theorem drop_second_heading {first : Heading} {later : List Heading}
    (other : first.title.toList.isPrefixOf (heading.title ++ heading.note ++ text).toList = false) :
    dropHeading (first :: heading :: later) (heading.title ++ heading.note ++ text) = text := by
  rw [dropHeading, find?_cons, other, find?_cons, starts_heading]
  simp only [heading_text, ← append_assoc, drop_left, String.ofList_toList]

theorem other_title {first : Heading} {left right : Char}
    (mine : first.title.toList[2]? = some left) (its : heading.title.toList[2]? = some right)
    (apart : left ≠ right) :
    first.title.toList.isPrefixOf (heading.title ++ heading.note ++ text).toList = false := by
  rw [Bool.eq_false_iff, Ne, List.isPrefixOf_iff_prefix, heading_text, prefix_iff_getElem?]
  intro same
  obtain ⟨short, shown⟩ := List.getElem?_eq_some_iff.mp mine
  obtain ⟨long, -⟩ := List.getElem?_eq_some_iff.mp its
  have third := same 2 short
  rw [getElem?_append_left long, its, shown] at third
  exact apart (Option.some.inj third).symm

end

theorem headed_tokens {heading : Heading} (drops : ∀ text, dropHeading
      [summaryHeading, excerptHeading] (heading.title ++ heading.note ++ text) = text)
    (text : String) :
    ((headed heading text).map partTokens).sum = approxTokens (strip text) := by
  rw [headed]
  split
  · rename_i blank
    simp [blank, approxTokens]
  · simp [partTokens, drops]

theorem summary_tokens (text : String) :
    ((headed summaryHeading text).map partTokens).sum = approxTokens (strip text) :=
  headed_tokens (drop_first_heading summaryHeading · _) text

theorem excerpt_part_tokens (text : String) :
    ((headed excerptHeading text).map partTokens).sum = approxTokens (strip text) := by
  have summary : summaryHeading.title.toList[2]? = some '本' := by decide +kernel
  have excerpt : excerptHeading.title.toList[2]? = some '会' := by decide +kernel
  exact headed_tokens (fun _ => drop_second_heading (other_title summary excerpt (by decide))) text

theorem headed_spoken (heading : Heading) (text : String) :
    (headed heading text).filter (fun message => message.role ≠ "system") = [] := by
  rw [headed]
  split <;> simp

theorem history_part_assemble (systemPrompt summary : String) (recent : List Message)
    (newUserText excerpt : String) :
    historyPart (assemble systemPrompt summary recent newUserText excerpt) =
      headed summaryHeading summary ++ headed excerptHeading excerpt ++ recent :=
  dropLast_concat

section

variable {recent : List Message} (spoken : ∀ message ∈ recent, message.role ≠ "system")
include spoken

theorem recent_history_assemble (systemPrompt summary newUserText excerpt : String) :
    recentHistory (assemble systemPrompt summary recent newUserText excerpt) = recent := by
  rw [recentHistory, history_part_assemble, filter_append, filter_append,
    headed_spoken, headed_spoken]
  exact filter_eq_self.mpr fun message mem => decide_eq_true (spoken message mem)

theorem history_tokens_assemble (systemPrompt summary newUserText excerpt : String) :
    historyTokens (assemble systemPrompt summary recent newUserText excerpt) =
      approxTokens (strip summary) + approxTokens (strip excerpt) + messagesTokens recent := by
  have said : recent.map partTokens = recent.map messageTokens :=
    map_congr_left fun message mem => if_neg (spoken message mem)
  rw [historyTokens, history_part_assemble, map_append, map_append, sum_append,
    sum_append, summary_tokens, excerpt_part_tokens, said]
  rfl

theorem history_tokens_le (systemPrompt summary newUserText excerpt : String) :
    historyTokens (assemble systemPrompt summary recent newUserText excerpt) ≤
      approxTokens summary + approxTokens excerpt + messagesTokens recent := by
  rw [history_tokens_assemble spoken]
  exact Nat.add_le_add_right (Nat.add_le_add (strip_tokens summary) (strip_tokens excerpt)) _

end

theorem pending_spoken {session : Session} {history : List Message} {message : Message}
    (mem : message ∈ (pendingMessages session history).1) : message.role ≠ "system" := by
  have valid := mem_of_mem_drop mem
  rw [validMessages, mem_filter, decide_eq_true_eq] at valid
  rcases valid.2.1 with user | assistant
  · simp [user]
  · simp [assistant]

theorem fit_recent_spoken (spoken : ∀ message ∈ messages, message.role ≠ "system") :
    ∀ message ∈ fitRecent messages tokenBudget, message.role ≠ "system" := by
  rw [fitRecent]
  split
  · exact spoken
  · intro clipped listed
    obtain ⟨message, mem, rfl⟩ := mem_map.mp listed
    exact spoken message mem

theorem excerpt_tokens (messages : List Message) (tokenBudget : Int) :
    (approxTokens (degradedFactExcerpt messages tokenBudget).1 : Int) ≤ max tokenBudget 5 := by
  rw [degradedFactExcerpt]
  split
  · simp [approxTokens]
  · exact clip_text_tokens _ tokenBudget

/-- What the summary and the excerpt may take when the recent history fills the budget. -/
def ContextBuildResult.floor (result : ContextBuildResult) : Int :=
  if result.compactionDegraded then 10 else 256

/-- A summary of white space alone is clipped to the marker when no summary can be made. -/
def ContextBuildResult.blankSummary (result : ContextBuildResult) (session : Session) : Int :=
  if result.compactionDegraded ∧ strip session.summary = "" ∧ session.summary ≠ "" then 5 else 0

section

variable {streamChat : StreamChat} {settings : Settings} {session : Session}
  {stored : StoredSession} {history : List Message} {newUserText systemPrompt : String}
  {historyTokenBudget : Option Int}

theorem context_fits (streamChat : StreamChat) (stored : StoredSession)
    (newUserText systemPrompt : String)
    (fits : approxTokens session.summary + messagesTokens (pendingMessages session history).1 ≤
          historyBudget settings historyTokenBudget) :
    (historyTokens (buildLlmContext streamChat settings session stored history newUserText
        systemPrompt historyTokenBudget).messages : Int) ≤
      historyBudget settings historyTokenBudget := by
  rw [buildLlmContext]
  dsimp only
  rw [if_pos fits]
  have spoken : ∀ message ∈ (pendingMessages session history).1, message.role ≠ "system" :=
    fun _ mem => pending_spoken mem
  have total := history_tokens_le spoken systemPrompt session.summary newUserText ""
  have none : approxTokens "" = 0 := rfl
  simp only [ContextBuildResult.plain]
  omega

/-- What a request holds when the history does not fit: the fitted recent turns, and before
them the stored summary when no older turn is left out, a clipped summary, or the clipped
old summary and an excerpt. -/
theorem context_shape (streamChat : StreamChat) (stored : StoredSession)
    (newUserText systemPrompt : String)
    (large : ¬(approxTokens session.summary +
        messagesTokens (pendingMessages session history).1 : Int) ≤
          historyBudget settings historyTokenBudget) :
    let budget := historyBudget settings historyTokenBudget
    let suffix := recentSuffix (pendingMessages session history).1
      (min settings.recentTokenBudget budget)
    let recent := fitRecent suffix.1 (min settings.recentTokenBudget budget)
    let carry := max 1 (budget - messagesTokens recent)
    let result := buildLlmContext streamChat settings session stored history newUserText
      systemPrompt historyTokenBudget
    ∃ summary excerpt, result.messages = assemble systemPrompt summary recent newUserText excerpt ∧
        (suffix.2 = 0 ∨ (result.compactionDegraded = false ∧ excerpt = "" ∧
            ∃ text, summary = clipText text (max 256 carry)) ∨
          (result.compactionDegraded = true ∧
            ∃ old kept, kept = (if strip session.summary = "" then 0 else carry / 2) ∧
              summary = clipText session.summary kept ∧
              excerpt = (degradedFactExcerpt old (max 1 (carry - kept))).1)) := by
  intro budget suffix recent carry result
  have made : result = buildLlmContext streamChat settings session stored history newUserText
    systemPrompt historyTokenBudget := rfl
  clear_value result
  rw [buildLlmContext] at made
  dsimp only at made
  rw [if_neg large] at made
  split at made
  · rename_i whole
    subst made
    exact ⟨_, _, rfl, Or.inl whole⟩
  split at made
  · subst made
    exact ⟨_, _, rfl, Or.inr (Or.inl ⟨rfl, rfl, _, rfl⟩)⟩
  · subst made
    exact ⟨_, _, rfl, Or.inr (Or.inr ⟨rfl, _, _, rfl, rfl, rfl⟩)⟩

/-- The request keeps the history budget when nothing has to be left out. Otherwise the recent
history keeps its own budget or nine tokens for each message, and once older turns are left out
the whole exceeds the history budget by no more than the floors of the summary and the excerpt
allow. -/
theorem context_within_budget (streamChat : StreamChat) (settings : Settings) (session : Session)
    (stored : StoredSession) (history : List Message) (newUserText systemPrompt : String)
    (historyTokenBudget : Option Int) :
    let budget := historyBudget settings historyTokenBudget
    let pending := (pendingMessages session history).1
    let recentBudget := min settings.recentTokenBudget budget
    let result := buildLlmContext streamChat settings session stored history newUserText
      systemPrompt historyTokenBudget
    let recent := recentHistory result.messages
    ((approxTokens session.summary + messagesTokens pending : Int) ≤ budget →
        historyTokens result.messages ≤ budget) ∧
      (¬(approxTokens session.summary + messagesTokens pending : Int) ≤ budget →
        messagesTokens recent ≤ max recentBudget (9 * recent.length) ∧
          ((recentSuffix pending recentBudget).2 ≠ 0 → historyTokens result.messages ≤
              max budget (messagesTokens recent + result.floor) +
                result.blankSummary session)) := by
  intro budget pending recentBudget result recent
  refine ⟨context_fits streamChat stored newUserText systemPrompt, fun large => ?_⟩
  have spoken : ∀ message ∈ fitRecent (recentSuffix pending recentBudget).1 recentBudget,
      message.role ≠ "system" :=
    fit_recent_spoken fun _ mem => pending_spoken (recent_suffix_mem mem)
  obtain ⟨summary, excerpt, shown, parts⟩ :=
    context_shape streamChat stored newUserText systemPrompt large
  have fitted : recent = fitRecent (recentSuffix pending recentBudget).1 recentBudget := by
    change recentHistory result.messages = _
    rw [shown]
    exact recent_history_assemble spoken systemPrompt summary newUserText excerpt
  have total : historyTokens result.messages ≤
      approxTokens summary + approxTokens excerpt + messagesTokens recent := by
    rw [shown, fitted]
    exact history_tokens_le spoken systemPrompt summary newUserText excerpt
  refine ⟨?_, fun older => ?_⟩
  · rw [fitted, fit_recent_length]
    exact fit_recent_tokens _ recentBudget
  rw [← fitted] at parts
  rcases parts with whole | ⟨summarised, unsaid, text, clipped⟩ |
    ⟨degraded, old, kept, share, clipped, said⟩
  · exact absurd whole older
  · have short := clip_text_tokens text (max 256 (max 1 (budget - messagesTokens recent)))
    have nothing : approxTokens excerpt = 0 := unsaid ▸ rfl
    rw [← clipped] at short
    have least : result.floor = 256 :=
      if_neg fun cut => Bool.false_ne_true (summarised.symm.trans cut)
    have slack : result.blankSummary session = 0 :=
      if_neg fun state => Bool.false_ne_true (summarised.symm.trans state.1)
    omega
  · have short := clip_text_tokens session.summary kept
    have cut := excerpt_tokens old (max 1 (max 1 (budget - messagesTokens recent) - kept))
    rw [← clipped] at short
    rw [← said] at cut
    have least : result.floor = 10 := if_pos degraded
    by_cases blank : strip session.summary = ""
    · rw [if_pos blank] at share
      by_cases empty : session.summary = ""
      · have nothing : approxTokens summary = 0 := by
          rw [clipped, share, empty]
          rfl
        have slack : result.blankSummary session = 0 := if_neg fun state => state.2.2 empty
        omega
      · have slack : result.blankSummary session = 5 := if_pos ⟨degraded, blank, empty⟩
        omega
    · rw [if_neg blank] at share
      have slack : result.blankSummary session = 0 := if_neg fun state => blank state.2.1
      omega

end

/-- Each of the characters is one token. -/
def wideText (count : Nat) : String := String.ofList (List.replicate count '长')

theorem wide_filled (count : Nat) : wideText (count + 1) ≠ "" := by
  intro empty
  have chars := congrArg String.toList empty
  rw [wideText, String.toList_ofList] at chars
  cases chars

theorem wide_tokens (count : Nat) : approxTokens (wideText (count + 1)) = count + 1 := by
  have wide : charQuarters '长' = 4 := rfl
  rw [approxTokens, if_neg (wide_filled count), quarters, wideText, String.toList_ofList,
    map_replicate, sum_replicate_nat, wide]
  omega

theorem wide_message (count : Nat) : messageTokens ⟨"user", wideText (count + 1)⟩ = count + 5 := by
  rw [messageTokens, wide_tokens]
  omega

theorem wide_solid (count : Nat) : strip (wideText count) = wideText count := by
  refine strip_solid fun char listed => ?_
  rw [wideText, String.toList_ofList] at listed
  rw [eq_of_mem_replicate listed]
  decide

def wordyStream (summary : String) : StreamChat := fun _ => .ok [⟨some summary, none⟩]

def wordyContext (summary old new : String) : ContextBuildResult :=
  buildLlmContext (wordyStream summary) ⟨60000, 24000, 30000⟩ ⟨"", 0⟩
    ⟨.ok (some ⟨"", 0⟩), .ok none⟩ [⟨"user", old⟩, ⟨"user", new⟩] "" "" (some 256)

section

variable {summary old new : String} (filled : summary ≠ "") (solid : strip summary = summary)
  (few : approxTokens summary = 100) (older : approxTokens old = 300)
  (newer : approxTokens new = 200)

include filled solid in
theorem wordy_compacted (settings : Settings) (message : Message) :
    (compact (wordyStream summary) settings ⟨"", 0⟩ ⟨.ok (some ⟨"", 0⟩), .ok none⟩ 0
      [message]).summary = .ok summary := by
  have generated : generateSummary (wordyStream summary) settings "" [message] =
      .ok ⟨summary, 0, 0, 0⟩ := by
    simp [generateSummary, wordyStream, addDelta, solid, filled, bind, Except.bind]
  rw [compact, generated]
  rfl

include older newer in
theorem wordy_pending : pendingMessages ⟨"", 0⟩ [⟨"user", old⟩, ⟨"user", new⟩] =
      ([⟨"user", old⟩, ⟨"user", new⟩], 0) := by
  have first : old ≠ "" := by
    rintro rfl
    cases older
  have second : new ≠ "" := by
    rintro rfl
    cases newer
  have valid : validMessages [⟨"user", old⟩, ⟨"user", new⟩] = [⟨"user", old⟩, ⟨"user", new⟩] := by
    simp [validMessages, first, second]
  rw [pendingMessages, valid]
  rfl

include filled solid few older newer in
theorem wordy_messages :
    (wordyContext summary old new).messages = assemble "" summary [⟨"user", new⟩] "" "" := by
  have large : ¬(approxTokens "" + messagesTokens [⟨"user", old⟩, ⟨"user", new⟩] : Int) ≤ 256 := by
    have nothing : approxTokens "" = 0 := rfl
    simp [messagesTokens, messageTokens, older, newer, nothing]
  have suffix : recentSuffix [⟨"user", old⟩, ⟨"user", new⟩] 256 = ([⟨"user", new⟩], 1) := by
    simp [recentSuffix, turns, turnsFrom, selectRecent, messagesTokens, messageTokens, older, newer]
  have recent : fitRecent [⟨"user", new⟩] 256 = [⟨"user", new⟩] :=
    if_pos (by simp [messagesTokens, messageTokens, newer])
  have chunk : summaryChunk ⟨60000, 24000, 30000⟩ "" [⟨"user", old⟩] = [⟨"user", old⟩] := by
    simp [summaryChunk, selectChunk]
  have kept : clipText summary (max 256 (max 1 (256 - messagesTokens [⟨"user", new⟩]))) =
      summary := if_pos (by simp [few])
  have budget : historyBudget ⟨60000, 24000, 30000⟩ (some 256) = 256 := rfl
  have least : min (24000 : Int) 256 = 256 := rfl
  have left : [(⟨"user", old⟩ : Message), ⟨"user", new⟩].take 1 = [⟨"user", old⟩] := rfl
  rw [wordyContext, buildLlmContext, wordy_pending older newer, budget]
  dsimp only
  rw [if_neg large, least, suffix]
  dsimp only
  rw [if_neg Nat.one_ne_zero, left, chunk, recent, Nat.cast_zero, wordy_compacted filled solid]
  dsimp only
  rw [kept]

end

theorem context_over_budget :
    256 < historyTokens (wordyContext (wideText 100) (wideText 300) (wideText 200)).messages := by
  have newer : messageTokens ⟨"user", wideText 200⟩ = 204 := wide_message 199
  have nothing : approxTokens (strip "") = 0 := by decide +kernel
  rw [wordy_messages (wide_filled 99) (wide_solid 100) (wide_tokens 99) (wide_tokens 299)
    (wide_tokens 199), history_tokens_assemble (by simp), wide_solid, wide_tokens 99, nothing]
  simp [messagesTokens, newer]

end AgentMate.SessionContext
