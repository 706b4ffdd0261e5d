/-!
# Long-poll parking lot

Parked pollers in registration order.  A poller settles once, with true when it
was woken and false when its timer fired or the gateway shut down; its handler
runs on from there later.
-/

namespace InferenceGateway

structure Waiters (Poll : Type) where
  waiting : List Poll
  settled : List (Poll × Bool)

namespace Waiters

variable {Poll : Type}

def empty : Waiters Poll := ⟨[], []⟩

/-- Register a poll; it settles later. -/
def wait (waiters : Waiters Poll) (poll : Poll) : Waiters Poll :=
  { waiters with waiting := waiters.waiting ++ [poll] }

/-- Wake every parked poller. -/
def kick (waiters : Waiters Poll) : Waiters Poll where
  waiting := []
  settled := waiters.settled ++ waiters.waiting.map fun poll => (poll, true)

/-- The timer of the pollers selected by `p` fires, or their signal aborts. -/
def giveUp (waiters : Waiters Poll) (p : Poll → Bool) : Waiters Poll where
  waiting := waiters.waiting.filter fun poll => !p poll
  settled := waiters.settled ++ (waiters.waiting.filter p).map fun poll => (poll, false)

/-- The polls that have not run on yet, waiting or settled. -/
def polls (waiters : Waiters Poll) : List Poll :=
  waiters.waiting ++ waiters.settled.map Prod.fst

section Polls

variable {waiters : Waiters Poll} {poll : Poll}

theorem mem_polls :
    poll ∈ waiters.polls ↔ poll ∈ waiters.waiting ∨ ∃ woken, (poll, woken) ∈ waiters.settled := by
  simp [polls]

theorem mem_polls_wait {parked : Poll} (member : poll ∈ (waiters.wait parked).polls) :
    poll ∈ waiters.polls ∨ poll = parked := by
  rw [mem_polls] at member ⊢
  simp only [wait, List.mem_append, List.mem_singleton] at member
  rcases member with (waiting | parked) | settled
  · exact .inl (.inl waiting)
  · exact .inr parked
  · exact .inl (.inr settled)

theorem mem_polls_kick (member : poll ∈ waiters.kick.polls) : poll ∈ waiters.polls := by
  rw [mem_polls] at member ⊢
  simp only [kick, List.not_mem_nil, false_or, List.mem_append, List.mem_map,
    Prod.mk.injEq] at member
  obtain ⟨woken, settled | ⟨_, waiting, rfl, -⟩⟩ := member
  · exact .inr ⟨woken, settled⟩
  · exact .inl waiting

theorem mem_polls_giveUp {p : Poll → Bool} (member : poll ∈ (waiters.giveUp p).polls) :
    poll ∈ waiters.polls := by
  rw [mem_polls] at member ⊢
  simp only [giveUp, List.mem_append, List.mem_map, List.mem_filter, Prod.mk.injEq] at member
  obtain ⟨waiting, -⟩ | ⟨woken, settled | ⟨_, ⟨waiting, -⟩, rfl, -⟩⟩ := member
  · exact .inl waiting
  · exact .inr ⟨woken, settled⟩
  · exact .inl waiting

end Polls

end Waiters

end InferenceGateway
