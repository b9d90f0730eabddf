import TopicBroker.Proofs.Registry.Coherence

/-!
# The order of registration

All handlers of a coherent registry in the order of their registration, as one list. What matches a
topic is a part of this list, taking a handler out is taking its key out of the list, and
registering one is putting it at the end.
-/

namespace TopicBroker.Registry

variable {H : Type}

/-- All handlers in the order of their registration. -/
def registered (r : Registry H) : List (Attachment H) :=
  inOrder (r.handlers.entries.map fun e => e.2.attachment e.1)

/-- Where every handler accepts the topic, all of them match it. -/
theorem matching_true (r : Registry H) (topic : String) :
    r.matching (fun _ _ => true) topic = r.registered := by
  simp [registered, matching, matchingAmong]

/-- The handlers in order are the registered ones. -/
theorem mem_registered {r : Registry H} {a : Attachment H} :
    a ∈ r.registered ↔ r.handlers.get? a.key = some ⟨a.seq, a.handler⟩ := by
  rw [← matching_true r "", mem_matching]
  simp

/-- A key is in the order exactly when it has a handler. -/
theorem mem_keys_registered {r : Registry H} {key : String} :
    key ∈ r.registered.map (·.key) ↔ r.hasHandler key = true := by
  rw [hasHandler_eq_isSome, Option.isSome_iff_exists, List.mem_map]
  constructor
  · rintro ⟨a, ha, rfl⟩
    exact ⟨_, mem_registered.mp ha⟩
  · rintro ⟨g, entry⟩
    exact ⟨g.attachment key, mem_registered.mpr entry, rfl⟩

/-- There are as many handlers in the order as are registered. -/
theorem length_registered (r : Registry H) : r.registered.length = r.handlerCount := by
  rw [registered, inOrder, List.length_mergeSort, List.length_map]
  rfl

@[simp] theorem registered_empty : (empty : Registry H).registered = [] := by
  simp [registered, inOrder, empty, Table.empty]

/-- Only the handlers matter for their order. -/
theorem registered_congr {r s : Registry H} (h : r.handlers = s.handlers) :
    r.registered = s.registered := by
  simp only [registered, h]

namespace Coherent

variable {r : Registry H}

/-- The order of registration is the order of the numbers. -/
theorem pairwise_registered (h : r.Coherent) : r.registered.Pairwise Earlier := by
  rw [← matching_true r ""]
  exact h.pairwise_matching _ _

/-- What matches a topic is the part of all handlers that accepts it. -/
theorem matching_eq_filter (h : r.Coherent) (accepts : H → String → Bool) (topic : String) :
    r.matching accepts topic = r.registered.filter fun a => accepts a.handler topic := by
  refine (h.pairwise_matching accepts topic).eq_of_mem_iff (h.pairwise_registered.filter _) ?_
  intro a
  rw [mem_matching, List.mem_filter, mem_registered]

/-- Taking a handler out takes its key out of the order. -/
theorem registered_deregisterHandler (h : r.Coherent) (key : String) :
    (r.deregisterHandler key).1.registered = r.registered.filter fun a => a.key != key := by
  refine (h.deregisterHandler key).pairwise_registered.eq_of_mem_iff
    (h.pairwise_registered.filter _) ?_
  intro a
  rw [mem_registered, get?_handlers_deregisterHandler, List.mem_filter, mem_registered]
  by_cases same : a.key = key <;> simp [same]

/-- Registering a handler puts it behind all others. -/
theorem registered_registerHandler (h : r.Coherent) (accepts : H → String → Bool) (key : String)
    (handler : H) :
    (r.registerHandler accepts key handler).1.registered =
      (r.registered.filter fun a => a.key != key) ++ [r.nextAttachment key handler] := by
  refine (h.registerHandler accepts key handler).pairwise_registered.eq_of_mem_iff ?_ ?_
  · refine List.pairwise_append.mpr ⟨h.pairwise_registered.filter _, by simp, ?_⟩
    intro a ha b hb
    have below := h.bounded (mem_registered.mp (List.mem_of_mem_filter ha))
    obtain rfl := List.mem_singleton.mp hb
    exact Nat.lt_succ_of_le below
  · intro a
    rw [mem_registered, get?_handlers_registerHandler, List.mem_append, List.mem_filter,
      mem_registered, List.mem_singleton]
    by_cases same : a.key = key
    · have isNew : a = r.nextAttachment key handler ↔
          (⟨r.lastSeq + 1, handler⟩ : Registration H) = ⟨a.seq, a.handler⟩ := by
        obtain ⟨k, s, g⟩ := a
        obtain rfl : k = key := same
        simp [nextAttachment, eq_comm]
      simp [same, isNew]
    · have ne : a ≠ r.nextAttachment key handler := fun eq => same (congrArg Attachment.key eq)
      simp [same, ne]

end Coherent

end TopicBroker.Registry
