import Mathlib.Data.List.Basic

/-!
# Requests and replies in flight

A mailbox carries the requests of one kind between two parties. A posted request is
served at most once, at any later time, possibly after its sender gave up waiting;
its reply, or the failure the sender saw instead, is read at any later time. Ending
the sender's process leaves requests under way and drops every reply.
-/

namespace AgentMate

open List

structure Posted (Request : Type*) where
  request : Request
  waiting : Bool

structure Mailbox (Request Reply : Type*) where
  posted : List (Posted Request)
  replies : List (Request × Reply)

namespace Mailbox

variable {Request Reply : Type*}

def empty : Mailbox Request Reply := ⟨[], []⟩

def post (box : Mailbox Request Reply) (request : Request) : Mailbox Request Reply :=
  { box with posted := box.posted ++ [⟨request, true⟩] }

/-- The other party serves the request; nobody reads the reply once the sender gave up. -/
def serve (box : Mailbox Request Reply) (index : Nat) (reply : Reply) : Mailbox Request Reply :=
  match box.posted[index]? with
  | some item =>
    { posted := box.posted.eraseIdx index
      replies := if item.waiting then box.replies ++ [(item.request, reply)] else box.replies }
  | none => box

def giveUp (box : Mailbox Request Reply) (index : Nat) (failure : Reply) : Mailbox Request Reply :=
  match box.posted[index]? with
  | some item =>
    if item.waiting then
      { posted := box.posted.set index ⟨item.request, false⟩
        replies := box.replies ++ [(item.request, failure)] }
    else box
  | none => box

def read (box : Mailbox Request Reply) (index : Nat) : Mailbox Request Reply :=
  { box with replies := box.replies.eraseIdx index }

def abandon (box : Mailbox Request Reply) : Mailbox Request Reply :=
  ⟨box.posted.map fun item => { item with waiting := false }, []⟩

def Carries (box : Mailbox Request Reply) (request : Request) : Prop :=
  (∃ item ∈ box.posted, item.request = request) ∨ ∃ reply, (request, reply) ∈ box.replies

section

variable {box : Mailbox Request Reply} {request : Request} {reply : Reply} {index : Nat}

theorem carries_posted {item : Posted Request} (found : box.posted[index]? = some item) :
    box.Carries item.request :=
  Or.inl ⟨item, mem_of_getElem? found, rfl⟩

theorem carries_post {new : Request} (carried : (box.post new).Carries request) :
    box.Carries request ∨ request = new := by
  rcases carried with ⟨item, mem, same⟩ | replied
  · rcases mem_append.mp mem with old | added
    · exact Or.inl (Or.inl ⟨item, old, same⟩)
    · rw [mem_singleton.mp added] at same
      exact Or.inr same.symm
  · exact Or.inl (Or.inr replied)

theorem mem_replies_serve {pair : Request × Reply} (mem : pair ∈ (box.serve index reply).replies) :
    pair ∈ box.replies ∨ ∃ item, box.posted[index]? = some item ∧ pair = (item.request, reply) := by
  unfold serve at mem
  split at mem
  · next item found =>
    simp only at mem
    split at mem
    · rcases mem_append.mp mem with old | added
      · exact Or.inl old
      · exact Or.inr ⟨item, found, mem_singleton.mp added⟩
    · exact Or.inl mem
  · exact Or.inl mem

theorem mem_replies_give_up {pair : Request × Reply}
    (mem : pair ∈ (box.giveUp index reply).replies) :
    pair ∈ box.replies ∨ ∃ item, box.posted[index]? = some item ∧ pair = (item.request, reply) := by
  unfold giveUp at mem
  split at mem
  · next item found =>
    split at mem
    · rcases mem_append.mp mem with old | added
      · exact Or.inl old
      · exact Or.inr ⟨item, found, mem_singleton.mp added⟩
    · exact Or.inl mem
  · exact Or.inl mem

theorem carries_serve (carried : (box.serve index reply).Carries request) :
    box.Carries request := by
  rcases carried with ⟨item, mem, same⟩ | ⟨answer, mem⟩
  · refine Or.inl ⟨item, ?_, same⟩
    unfold serve at mem
    split at mem
    · exact mem_of_mem_eraseIdx mem
    · exact mem
  · rcases mem_replies_serve mem with old | ⟨item, found, same⟩
    · exact Or.inr ⟨answer, old⟩
    · cases same
      exact carries_posted found

theorem carries_give_up (carried : (box.giveUp index reply).Carries request) :
    box.Carries request := by
  rcases carried with ⟨item, mem, same⟩ | ⟨answer, mem⟩
  · unfold giveUp at mem
    split at mem
    · next old found =>
      split at mem
      · rcases mem_or_eq_of_mem_set mem with kept | replaced
        · exact Or.inl ⟨item, kept, same⟩
        · have carried := carries_posted found
          rwa [show old.request = request by rw [← same, replaced]] at carried
      · exact Or.inl ⟨item, mem, same⟩
    · exact Or.inl ⟨item, mem, same⟩
  · rcases mem_replies_give_up mem with old | ⟨item, found, same⟩
    · exact Or.inr ⟨answer, old⟩
    · cases same
      exact carries_posted found

theorem carries_read (carried : (box.read index).Carries request) : box.Carries request := by
  rcases carried with posted | ⟨answer, mem⟩
  · exact Or.inl posted
  · exact Or.inr ⟨answer, mem_of_mem_eraseIdx mem⟩

theorem carries_abandon (carried : box.abandon.Carries request) : box.Carries request := by
  rcases carried with ⟨item, mem, same⟩ | ⟨answer, mem⟩
  · obtain ⟨old, oldMem, rfl⟩ := mem_map.mp mem
    exact Or.inl ⟨old, oldMem, same⟩
  · cases mem

end

end Mailbox

end AgentMate
