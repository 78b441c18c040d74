import PreAggregation.Control.Wire
import PreAggregation.Proofs.Control.Codec
import PreAggregation.Proofs.Control.Traffic

/-!
# What a broker and its peers can do

A handler that reads a frame settles who gets what, and a handler that queues a delivery
passes on one part of it.  So every delivery is pending at one handler until it is queued.
The broker routes by its history all the while.  All connections that are mentioned
anywhere exist, and all frames that are to be written have bytes.
-/

namespace PreAggregation

/-! ## Topics -/

namespace Router

section Reflects

variable {router : Router} {past : List Event}

theorem Reflects.lt_of_mem_subscribers
    (reflects : Reflects router past)
    {topic : String}
    {subscriber : Nat}
    (member : subscriber ∈ router.subscribers topic) :
    subscriber < router.nextId := by
  rw [reflects.nextId_eq]
  have has := (reflects.mem_subscribers_iff topic subscriber).mp member
  exact lt_accepted_of_isSome_session? (isSome_session?_of_hasSubscribed has)

theorem isLive_accept
    {connection : Nat}
    (live : connection = router.nextId ∨ router.isLive connection = true) :
    router.accept.1.isLive connection = true := by
  rw [isLive, accept, List.any_append, Bool.or_eq_true]
  rcases live with rfl | live
  · exact Or.inr (by simp)
  · exact Or.inl live

theorem isLive_disconnect
    {ended connection : Nat}
    (other : ended ≠ connection)
    (live : router.isLive connection = true) :
    (router.disconnect ended).isLive connection = true := by
  rw [isLive_iff] at live ⊢
  obtain ⟨entry, member, rfl⟩ := List.mem_map.mp live
  exact List.mem_map_of_mem (List.mem_filter.mpr ⟨member, decide_eq_true other.symm⟩)

theorem mem_subscribers_handle
    (router : Router)
    (sender connection : Nat)
    (frame : Frame)
    (topic : String) :
    connection ∈ (router.handle sender frame).1.subscribers topic ↔
      connection ∈ router.subscribers topic ∨
        connection = sender ∧ frame.kind = .subscribe ∧ topic = frame.topic := by
  unfold Router.handle
  cases kind : frame.kind with
  | subscribe =>
      change connection ∈ listed (enroll frame.topic sender router.table) topic ↔ _
      rw [mem_listed_enroll]
      simp [subscribers, listed]
  | publish => simp
  | message => simp
  | subscribed => simp

/-- The answers to a frame go to its sender and to subscribers, and they are no longer than
the frame. -/
theorem sound_of_mem_answers
    {sender : Nat}
    {frame : Frame}
    (fits : frame.Fits)
    {delivery : Delivery}
    (member : delivery ∈ (router.handle sender frame).2) :
    (delivery.recipient = sender ∨ delivery.recipient ∈ router.subscribers frame.topic) ∧
      delivery.frame.Fits := by
  unfold Router.handle at member
  cases kind : frame.kind with
  | subscribe =>
      rw [kind, List.mem_singleton] at member
      subst member
      refine ⟨Or.inl rfl, fits.1, ?_⟩
      have small := fits.2
      unfold Frame.bodyLength at small ⊢
      exact Nat.le_trans (Nat.le_add_right _ _) small
  | publish =>
      rw [kind] at member
      obtain ⟨recipient, subscribed, rfl⟩ := List.mem_map.mp member
      exact ⟨Or.inr subscribed, fits⟩
  | message =>
      rw [kind] at member
      exact absurd member List.not_mem_nil
  | subscribed =>
      rw [kind] at member
      exact absurd member List.not_mem_nil

end Reflects

theorem queuedTo_perm
    {first second : List Delivery}
    (perm : first.Perm second)
    (connection : Nat) :
    (queuedTo connection first).Perm (queuedTo connection second) :=
  (perm.filter _).map _

end Router

namespace Wire

/-! ## Steps of a handler -/

/-- What becomes of the wire when a handler reads. -/
inductive Reads (wire : Wire) (connection : Nat) : Wire → Prop
  | waits : wire.Reads connection wire
  | ends
      {link : Link}
      {fault : ReadFault}
      (found : wire.links[connection]? = some link)
      (faulty : (Frame.read link.up.arrived).1 = .error fault)
      (isEnd : link.ends fault = true) :
      wire.Reads connection (wire.change connection ({ · with handling := false }))
  | answers
      {link : Link}
      {frame : Frame}
      {rest : List UInt8}
      (found : wire.links[connection]? = some link)
      (handling : link.handling = true)
      (free : link.pending = [])
      (isRead : Frame.read link.up.arrived = (.ok frame, rest)) :
      wire.Reads connection (wire.answered connection frame rest)

theorem reads_read
    (wire : Wire)
    (connection : Nat) :
    wire.Reads connection (wire.read connection) := by
  unfold read
  cases found : wire.links[connection]? with
  | none => exact .waits
  | some link =>
      dsimp only
      split
      · rename_i free
        rw [Bool.and_eq_true, List.isEmpty_iff] at free
        split
        · exact .answers found free.1 free.2 ‹_›
        · rename_i fault rest isRead
          split
          · exact .ends found (congrArg Prod.fst isRead) ‹_›
          · exact .waits
      · exact .waits

/-- What becomes of the wire when a handler queues a delivery. -/
inductive Queues (wire : Wire) (connection : Nat) : Wire → Prop
  | idles : wire.Queues connection wire
  | delivers
      {link : Link}
      {delivery : Delivery}
      {rest : List Delivery}
      (found : wire.links[connection]? = some link)
      (pending_eq : link.pending = delivery :: rest) :
      wire.Queues connection (wire.delivered connection delivery rest)
  | drops
      {link : Link}
      {delivery : Delivery}
      {rest : List Delivery}
      (found : wire.links[connection]? = some link)
      (pending_eq : link.pending = delivery :: rest)
      (gone : wire.isWriting delivery.recipient = false)
      (stays : Bool) :
      wire.Queues connection
        (wire.change connection fun link =>
          { link with pending := rest, handling := stays && link.handling })

theorem queues_queue
    (wire : Wire)
    (connection : Nat) :
    wire.Queues connection (wire.queue connection) := by
  unfold queue
  cases found : wire.links[connection]? with
  | none => exact .idles
  | some link =>
      dsimp only
      split
      · exact .idles
      · rename_i delivery rest pending_eq
        split
        · exact .delivers found pending_eq
        · rename_i gone
          rw [Bool.not_eq_true] at gone
          split
          · exact .drops found pending_eq gone false
          · exact .drops found pending_eq gone true

/-! ## Pending deliveries -/

/-- The deliveries that are settled and not queued. -/
def pendings (wire : Wire) : List Delivery :=
  wire.links.flatMap Link.pending

theorem getElem?_change
    (wire : Wire)
    (connection other : Nat)
    (changed : Link → Link) :
    (wire.change connection changed).links[other]? =
      wire.links[other]?.map fun link => if connection = other then changed link else link :=
  List.getElem?_modify _ _ _ _

theorem length_links_change
    (wire : Wire)
    (connection : Nat)
    (changed : Link → Link) :
    (wire.change connection changed).links.length = wire.links.length :=
  List.length_modify _ _ _

/-- A list of which one part is replaced in its place. -/
theorem perm_flatMap_modify
    {α β : Type}
    (parts : α → List β)
    {list : List α}
    {index : Nat}
    {part : α}
    (found : list[index]? = some part) :
    ∃ others, (list.flatMap parts).Perm (parts part ++ others) ∧
      ∀ changed, ((list.modify index changed).flatMap parts).Perm (parts (changed part) ++ others) := by
  induction list generalizing index with
  | nil => exact absurd found (by simp)
  | cons head rest inductionHypothesis =>
      cases index with
      | zero =>
          cases found
          exact ⟨rest.flatMap parts, List.Perm.refl _, fun changed => List.Perm.refl _⟩
      | succ index =>
          obtain ⟨others, whole, replaced⟩ := inductionHypothesis found
          refine ⟨parts head ++ others, ?_, ?_⟩
          · rw [List.flatMap_cons]
            exact (whole.append_left _).trans (List.perm_append_comm_assoc _ _ _)
          · intro changed
            rw [List.modify_succ_cons, List.flatMap_cons]
            exact ((replaced changed).append_left _).trans (List.perm_append_comm_assoc _ _ _)

section Pendings

variable {wire : Wire} {connection : Nat} {changed : Link → Link}

theorem pendings_change_of_same (same : ∀ link, (changed link).pending = link.pending) :
    (wire.change connection changed).pendings = wire.pendings := by
  have behind (links : List Link) (index : Nat) :
      (links.modify index changed).flatMap Link.pending = links.flatMap Link.pending := by
    induction links generalizing index with
    | nil => rw [List.modify_nil]
    | cons head rest inductionHypothesis =>
        cases index with
        | zero => rw [List.modify_zero_cons, List.flatMap_cons, same, List.flatMap_cons]
        | succ index =>
            rw [List.modify_succ_cons, List.flatMap_cons, inductionHypothesis, List.flatMap_cons]
  exact behind wire.links connection

theorem pendings_change
    {link : Link}
    (found : wire.links[connection]? = some link) :
    ∃ others, wire.pendings.Perm (link.pending ++ others) ∧ ∀ changed,
      (wire.change connection changed).pendings.Perm ((changed link).pending ++ others) :=
  perm_flatMap_modify Link.pending found

/-- A handler that reads a frame has its answers pending, besides what was. -/
theorem pendings_answered
    {link : Link}
    {frame : Frame}
    {rest : List UInt8}
    (found : wire.links[connection]? = some link)
    (free : link.pending = []) :
    (wire.answered connection frame rest).pendings.Perm
      ((wire.router.handle connection frame).2 ++ wire.pendings) := by
  obtain ⟨others, whole, replaced⟩ := pendings_change found
  rw [free] at whole
  exact (replaced _).trans (whole.symm.append_left _)

/-- A delivery that a handler takes up was pending, besides what is. -/
theorem pendings_taken
    {link : Link}
    {delivery : Delivery}
    {rest : List Delivery}
    (found : wire.links[connection]? = some link)
    (pending_eq : link.pending = delivery :: rest)
    (taken : (changed link).pending = rest) :
    wire.pendings.Perm (delivery :: (wire.change connection changed).pendings) := by
  obtain ⟨others, whole, replaced⟩ := pendings_change found
  have left := replaced changed
  rw [taken] at left
  rw [pending_eq] at whole
  exact whole.trans (left.symm.cons delivery)

theorem pendings_delivered
    {link : Link}
    {delivery : Delivery}
    {rest : List Delivery}
    (found : wire.links[connection]? = some link)
    (pending_eq : link.pending = delivery :: rest) :
    wire.pendings.Perm (delivery :: (wire.delivered connection delivery rest).pendings) := by
  have queued : (wire.delivered connection delivery rest).pendings =
      (wire.change connection ({ · with pending := rest })).pendings :=
    pendings_change_of_same fun _ => rfl
  rw [queued]
  exact pendings_taken found pending_eq rfl

end Pendings

end Wire

/-! ## Order -/

/-- A delivery goes to one of so many connections, and can be written. -/
def Delivery.Sound
    (count : Nat)
    (delivery : Delivery) : Prop :=
  delivery.recipient < count ∧ delivery.frame.Fits

/-- A note is about one of so many connections. -/
def Note.Sound (count : Nat) : Note → Prop
  | .registered connection _ => connection < count
  | .published _ _ => True
  | .queued delivery => delivery.Sound count

theorem Delivery.Sound.mono
    {delivery : Delivery}
    {count more : Nat}
    (sound : delivery.Sound count)
    (grows : count ≤ more) :
    delivery.Sound more :=
  ⟨Nat.lt_of_lt_of_le sound.1 grows, sound.2⟩

theorem Note.Sound.mono
    {note : Note}
    {count more : Nat}
    (sound : note.Sound count)
    (grows : count ≤ more) :
    note.Sound more := by
  cases note with
  | registered connection topic => exact Nat.lt_of_lt_of_le sound grows
  | published topic payload => exact trivial
  | queued delivery => exact Delivery.Sound.mono sound grows

namespace Link

/-- What stays when something happens to a connection without its handler. -/
structure Stays (link next : Link) : Prop where
  handling_eq : next.handling = link.handling
  pending_eq : next.pending = link.pending
  isSome_client_eq : next.client.isSome = link.client.isSome
  hungUp_of_hungUp : link.hungUp = true → next.hungUp = true
  /-- A client sends nothing but its request. -/
  up_eq : link.client.isSome = true → next.up.bytes = link.up.bytes

theorem Stays.refl (link : Link) : link.Stays link :=
  ⟨rfl, rfl, rfl, id, fun _ => rfl⟩

theorem stays_step
    (link : Link)
    (event : Event) :
    link.Stays (link.step event) := by
  cases event with
  | write bytes =>
      rw [step]
      split
      · rename_i noClient
        refine ⟨rfl, rfl, rfl, id, ?_⟩
        intro isClient
        rw [Option.isNone_iff_eq_none.mp noClient] at isClient
        exact absurd isClient (by simp)
      · exact .refl link
  | hangUp => exact ⟨rfl, rfl, rfl, fun _ => rfl, fun _ => rfl⟩
  | carryUp count =>
      exact ⟨rfl, rfl, rfl, id, fun _ => ByteStream.bytes_carry link.up count⟩
  | carryDown count => exact ⟨rfl, rfl, rfl, id, fun _ => rfl⟩
  | send =>
      rw [step, send]
      split
      · exact .refl link
      · split
        · split <;> exact ⟨rfl, rfl, rfl, id, fun _ => rfl⟩
        · exact .refl link
  | stop =>
      rw [step]
      split <;> exact ⟨rfl, rfl, rfl, id, fun _ => rfl⟩
  | take =>
      rw [step, take]
      cases isClient : link.client with
      | none => exact .refl link
      | some client =>
          dsimp only
          split
          · split
            · exact ⟨rfl, rfl, by rw [isClient]; rfl, id, fun _ => rfl⟩
            · exact ⟨rfl, rfl, by rw [isClient]; rfl, id, fun _ => rfl⟩
            · exact .refl link
          · exact .refl link
  | receive =>
      rw [step, receive]
      cases isClient : link.client with
      | none => exact .refl link
      | some client =>
          dsimp only
          split
          · exact ⟨rfl, rfl, by rw [isClient]; rfl, id, fun _ => rfl⟩
          · exact .refl link
          · exact .refl link

end Link

namespace Wire

theorem handling_of_change
    {wire : Wire}
    {target connection : Nat}
    {changed : Link → Link}
    {next : Link}
    (found : (wire.change target changed).links[connection]? = some next)
    (handling : next.handling = true)
    (keeps : ∀ link, (changed link).handling = true → link.handling = true) :
    ∃ link, wire.links[connection]? = some link ∧ link.handling = true := by
  rw [getElem?_change] at found
  obtain ⟨link, present, rfl⟩ := Option.map_eq_some_iff.mp found
  refine ⟨link, present, ?_⟩
  split at handling
  · exact keeps link handling
  · exact handling

/-- The broker is what its history has made of it.  Nothing refers to a connection that
does not exist, and nothing is pending that cannot be written. -/
structure Orderly (wire : Wire) : Prop where
  reflects : ∃ past, Router.Reflects wire.router past
  /-- Connections are numbered as the broker numbers them. -/
  nextId_eq : wire.router.nextId = wire.links.length
  /-- A connection is live until its handler has stopped. -/
  isLive_of_handling : ∀ {connection link}, wire.links[connection]? = some link →
    link.handling = true → wire.router.isLive connection = true
  pendings_sound : ∀ delivery ∈ wire.pendings, delivery.Sound wire.links.length
  history_sound : ∀ note ∈ wire.history, note.Sound wire.links.length

theorem orderly_empty : empty.Orderly where
  reflects := ⟨[], Router.reflects_empty⟩
  nextId_eq := rfl
  isLive_of_handling found := absurd found (by simp [empty])
  pendings_sound _ member := absurd member List.not_mem_nil
  history_sound _ member := absurd member List.not_mem_nil

section Orderly

variable {wire : Wire}

theorem Orderly.lt_of_mem_subscribers
    (orderly : wire.Orderly)
    {topic : String}
    {subscriber : Nat}
    (member : subscriber ∈ wire.router.subscribers topic) :
    subscriber < wire.links.length := by
  obtain ⟨past, reflects⟩ := orderly.reflects
  rw [← orderly.nextId_eq]
  exact reflects.lt_of_mem_subscribers member

/-- A connection may change in all but what its handler has to queue. -/
theorem Orderly.change
    (orderly : wire.Orderly)
    (connection : Nat)
    {changed : Link → Link}
    (keeps : ∀ link, (changed link).handling = true → link.handling = true)
    (less : (wire.change connection changed).pendings ⊆ wire.pendings) :
    (wire.change connection changed).Orderly where
  reflects := orderly.reflects
  nextId_eq := by
    rw [length_links_change]
    exact orderly.nextId_eq
  isLive_of_handling found handling := by
    obtain ⟨link, present, still⟩ := handling_of_change found handling keeps
    exact orderly.isLive_of_handling present still
  pendings_sound delivery member := by
    rw [length_links_change]
    exact orderly.pendings_sound delivery (less member)
  history_sound := by
    rw [length_links_change]
    exact orderly.history_sound

theorem Orderly.opened
    (orderly : wire.Orderly)
    {link : Link}
    (free : link.pending = []) :
    (wire.opened link).Orderly := by
  have grows : wire.links.length ≤ (wire.opened link).links.length := by
    rw [Wire.opened, List.length_append]
    exact Nat.le_add_right _ _
  obtain ⟨past, reflects⟩ := orderly.reflects
  refine ⟨⟨_, reflects.accept⟩, ?_, ?_, ?_, ?_⟩
  · rw [Wire.opened, List.length_append, ← orderly.nextId_eq]
    rfl
  · intro connection other found handling
    apply Router.isLive_accept
    rw [Wire.opened, List.getElem?_append] at found
    split at found
    · exact Or.inr (orderly.isLive_of_handling found handling)
    · have exist := (List.getElem?_eq_some_iff.mp found).1
      rw [List.length_singleton] at exist
      rw [orderly.nextId_eq]
      omega
  · intro delivery member
    rw [pendings, Wire.opened, List.flatMap_append, List.flatMap_singleton, free,
      List.append_nil] at member
    exact (orderly.pendings_sound delivery member).mono grows
  · intro note member
    exact (orderly.history_sound note member).mono grows

theorem Orderly.answered
    (orderly : wire.Orderly)
    {connection : Nat}
    {link : Link}
    {frame : Frame}
    {rest : List UInt8}
    (found : wire.links[connection]? = some link)
    (handling : link.handling = true)
    (free : link.pending = [])
    (isRead : Frame.read link.up.arrived = (.ok frame, rest)) :
    (wire.answered connection frame rest).Orderly := by
  have exist : connection < wire.links.length := (List.getElem?_eq_some_iff.mp found).1
  have fits : frame.Fits := by
    obtain ⟨bytes, encoded, _⟩ := Frame.read_eq_ok_iff.mp isRead
    exact (Frame.encode_eq_ok_iff.mp encoded).1
  have length_eq : (wire.answered connection frame rest).links.length = wire.links.length :=
    length_links_change _ _ _
  have live := orderly.isLive_of_handling found handling
  have router_eq : (wire.answered connection frame rest).router =
      (wire.router.step (.handle connection frame)).1 :=
    (congrArg Prod.fst (if_pos live)).symm
  refine ⟨?_, ?_, ?_, ?_, ?_⟩
  · obtain ⟨past, reflects⟩ := orderly.reflects
    rw [router_eq]
    exact ⟨_, reflects.step (.handle connection frame)⟩
  · rw [length_eq, ← orderly.nextId_eq]
    exact Router.nextId_handle _ _ _
  · intro other next present reads
    obtain ⟨before, old, handled⟩ := handling_of_change present reads fun _ => id
    exact (Router.isLive_handle _ _ _ _).trans (orderly.isLive_of_handling old handled)
  · intro delivery member
    rw [length_eq]
    rcases List.mem_append.mp ((pendings_answered found free).mem_iff.mp member) with new | old
    · obtain ⟨recipient, small⟩ := Router.sound_of_mem_answers fits new
      rcases recipient with own | subscribed
      · exact ⟨own ▸ exist, small⟩
      · exact ⟨orderly.lt_of_mem_subscribers subscribed, small⟩
    · exact orderly.pendings_sound delivery old
  · intro note member
    rw [length_eq]
    rcases List.mem_append.mp member with old | new
    · exact orderly.history_sound note old
    · unfold Note.ofFrame at new
      split at new
      · rw [List.mem_singleton.mp new]
        exact exist
      · rw [List.mem_singleton.mp new]
        exact trivial
      · exact absurd new List.not_mem_nil
      · exact absurd new List.not_mem_nil

theorem Orderly.delivered
    (orderly : wire.Orderly)
    {connection : Nat}
    {link : Link}
    {delivery : Delivery}
    {rest : List Delivery}
    (found : wire.links[connection]? = some link)
    (pending_eq : link.pending = delivery :: rest) :
    (wire.delivered connection delivery rest).Orderly := by
  have whole := pendings_delivered found pending_eq
  have length_eq : (wire.delivered connection delivery rest).links.length = wire.links.length :=
    (length_links_change _ _ _).trans (length_links_change _ _ _)
  refine ⟨orderly.reflects, ?_, ?_, ?_, ?_⟩
  · rw [length_eq]
    exact orderly.nextId_eq
  · intro other next present reads
    obtain ⟨between, middle, handled⟩ := handling_of_change present reads fun _ => id
    obtain ⟨before, old, handles⟩ := handling_of_change middle handled fun _ => id
    exact orderly.isLive_of_handling old handles
  · intro other member
    rw [length_eq]
    exact orderly.pendings_sound other (whole.mem_iff.mpr (List.mem_cons_of_mem delivery member))
  · intro note member
    rw [length_eq]
    rcases List.mem_append.mp member with old | new
    · exact orderly.history_sound note old
    · rw [List.mem_singleton.mp new]
      exact orderly.pendings_sound delivery (whole.mem_iff.mpr List.mem_cons_self)

theorem Orderly.remove
    (orderly : wire.Orderly)
    (connection : Nat) :
    (wire.remove connection).Orderly := by
  unfold Wire.remove
  split
  · exact orderly
  · rename_i stopped
    obtain ⟨past, reflects⟩ := orderly.reflects
    refine ⟨⟨_, reflects.disconnect connection⟩, orderly.nextId_eq, ?_, orderly.pendings_sound,
      orderly.history_sound⟩
    intro other link found handling
    apply Router.isLive_disconnect ?_ (orderly.isLive_of_handling found handling)
    rintro rfl
    rw [found] at stopped
    exact stopped handling

theorem Orderly.step
    (orderly : wire.Orderly)
    (event : Event) :
    (wire.step event).Orderly := by
  cases event with
  | connect => exact orderly.opened rfl
  | subscribe topic =>
      apply orderly.opened
      unfold Link.asking
      split <;> rfl
  | within connection event =>
      apply orderly.change
      · intro link handling
        exact (link.stays_step event).handling_eq.symm.trans handling
      exact (List.Perm.of_eq (pendings_change_of_same fun link => (link.stays_step event).pending_eq)).subset
  | read connection =>
      have reads := wire.reads_read connection
      rw [Wire.step]
      generalize wire.read connection = next at reads ⊢
      cases reads with
      | waits => exact orderly
      | ends found faulty isEnd =>
          have same : (wire.change connection ({ · with handling := false })).pendings =
              wire.pendings :=
            pendings_change_of_same fun _ => rfl
          exact orderly.change connection (fun _ handling => absurd handling (by simp))
            (List.Perm.of_eq same).subset
      | answers found handling free isRead => exact orderly.answered found handling free isRead
  | queue connection =>
      have queues := wire.queues_queue connection
      rw [Wire.step]
      generalize wire.queue connection = next at queues ⊢
      cases queues with
      | idles => exact orderly
      | delivers found pending_eq => exact orderly.delivered found pending_eq
      | drops found pending_eq gone stays =>
          apply orderly.change
          · intro link handling
            exact (Bool.and_eq_true_iff.mp handling).2
          intro delivery member
          exact (pendings_taken found pending_eq rfl).mem_iff.mpr (List.mem_cons_of_mem _ member)
  | remove connection => exact orderly.remove connection

end Orderly

end Wire
end PreAggregation
