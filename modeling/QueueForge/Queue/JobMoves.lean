import Mathlib.Algebra.Order.Group.Multiset
import QueueForge.Queue.ManagerEffects

/-! When a move keeps the job. It removes the job first, and what comes after that may fail or write
other data.
-/

namespace QueueForge.Queue

open QueueForge.Async QueueForge.Js
open QueueManager (annotate assign)
open JobSerializer (copy copyMembers copyMembers_cons copyMembers_cons_proto parseMembers writable
  restorable)

-----------------------------------------------------------------------------------------
-- Data up to the annotations
-----------------------------------------------------------------------------------------

/-- The members the dead-letter queue adds. -/
def isAnnotationKey (key : String) : Bool :=
  key = "dlqReason" || key = "dlqAt"

/-- A record without the reason and the time it came to the dead-letter queue. -/
def withoutAnnotations (record : JobRecord) : JobRecord :=
  record.filter (fun member => !isAnnotationKey member.1)

section
variable {key : String} (value : Json) (record : JobRecord)

theorem withoutAnnotations_cons_annotated (annotates : isAnnotationKey key = true)
    : withoutAnnotations ((key, value) :: record) = withoutAnnotations record :=
  List.filter_cons_of_neg (by simp [annotates])

theorem withoutAnnotations_cons_data (data : isAnnotationKey key = false)
    : withoutAnnotations ((key, value) :: record) = (key, value) :: withoutAnnotations record :=
  List.filter_cons_of_pos (by simp [data])

/-- Replacing an annotation changes nothing else, by induction on the record. -/
theorem withoutAnnotations_replaced (annotates : isAnnotationKey key = true)
    : withoutAnnotations
        (record.map (fun member => if member.1 = key then (key, value) else member))
      = withoutAnnotations record := by
  induction record with
  | nil => rfl
  | cons member rest ih =>
      obtain ⟨name, old⟩ := member
      rw [List.map_cons]
      by_cases same : name = key
      · subst same
        rw [if_pos rfl, withoutAnnotations_cons_annotated _ _ annotates, ih,
          withoutAnnotations_cons_annotated _ _ annotates]
      · rw [if_neg same]
        cases other : isAnnotationKey name with
        | true =>
            rw [withoutAnnotations_cons_annotated _ _ other, ih,
              withoutAnnotations_cons_annotated _ _ other]
        | false =>
            rw [withoutAnnotations_cons_data _ _ other, ih,
              withoutAnnotations_cons_data _ _ other]

theorem withoutAnnotations_assign (annotates : isAnnotationKey key = true)
    : withoutAnnotations (assign record key value) = withoutAnnotations record := by
  unfold assign
  split
  · exact withoutAnnotations_replaced value record annotates
  · rw [withoutAnnotations, List.filter_append, List.filter_cons_of_neg (by simp [annotates])]
    exact List.append_nil _

end

theorem withoutAnnotations_annotate (record : JobRecord) (reason : String) (now : Int)
    : withoutAnnotations (annotate record reason now) = withoutAnnotations record := by
  rw [annotate, withoutAnnotations_assign _ _ rfl, withoutAnnotations_assign _ _ rfl]

/-- A record is the same, up to the annotations, when it is read and written again: its dates are
written as they were, and no member is called `__proto__`.
-/
def carries (record : JobRecord) : Bool :=
  record.all (fun member =>
    if isAnnotationKey member.1 then
      writable member.2
    else
      member.1 ≠ "__proto__" && restorable member.2)

/-- By induction on the record. -/
theorem carries_iff (record : JobRecord)
    : (∃ copied,
        copyMembers record = .ok copied
        ∧ withoutAnnotations copied = withoutAnnotations record)
      ↔ carries record = true := by
  induction record with
  | nil => exact ⟨fun _ => rfl, fun _ => ⟨[], rfl, rfl⟩⟩
  | cons member rest ih =>
      obtain ⟨key, value⟩ := member
      rw [carries, List.all_cons, Bool.and_eq_true, ← carries, ← ih]
      by_cases proto : key = "__proto__"
      · subst proto
        rw [copyMembers_cons_proto]
        constructor
        · rintro ⟨copied, written, same⟩
          have kept : ("__proto__", value) ∈ withoutAnnotations copied := by
            rw [same]
            exact List.mem_filter.mpr ⟨List.mem_cons_self, rfl⟩
          have own := List.mem_of_mem_filter kept
          rw [← JobSerializer.ownMembers_copied written] at own
          exact absurd (List.mem_filter.mp own).2 (by simp)
        · exact fun both => absurd both.1 (by simp [isAnnotationKey])
      · rw [copyMembers_cons proto]
        cases annotates : isAnnotationKey key with
        | true =>
            simp only [if_true]
            rw [← JobSerializer.copy_ok_iff value]
            constructor
            · rintro ⟨copied, written, same⟩
              obtain ⟨copiedValue, valueWritten, written⟩ := Settled.bind_eq_ok.mp written
              obtain ⟨others, restWritten, written⟩ := Settled.bind_eq_ok.mp written
              cases written
              rw [withoutAnnotations_cons_annotated _ _ annotates,
                withoutAnnotations_cons_annotated _ _ annotates] at same
              exact ⟨⟨copiedValue, valueWritten⟩, others, restWritten, same⟩
            · rintro ⟨⟨copiedValue, valueWritten⟩, others, restWritten, same⟩
              refine ⟨(key, copiedValue) :: others, ?_, ?_⟩
              · rw [valueWritten, restWritten]
                rfl
              · rw [withoutAnnotations_cons_annotated _ _ annotates, same,
                  withoutAnnotations_cons_annotated _ _ annotates]
        | false =>
            simp only [Bool.false_eq_true, if_false, ne_eq, proto, not_false_eq_true, decide_true,
              Bool.true_and]
            rw [← JobSerializer.copy_self_iff value]
            constructor
            · rintro ⟨copied, written, same⟩
              obtain ⟨copiedValue, valueWritten, written⟩ := Settled.bind_eq_ok.mp written
              obtain ⟨others, restWritten, written⟩ := Settled.bind_eq_ok.mp written
              cases written
              rw [withoutAnnotations_cons_data _ _ annotates,
                withoutAnnotations_cons_data _ _ annotates] at same
              injection same with head tail
              injection head with _ sameValue
              exact ⟨sameValue ▸ valueWritten, others, restWritten, tail⟩
            · rintro ⟨valueWritten, others, restWritten, same⟩
              refine ⟨(key, value) :: others, ?_, ?_⟩
              · rw [valueWritten, restWritten]
                rfl
              · rw [withoutAnnotations_cons_data _ _ annotates, same,
                  withoutAnnotations_cons_data _ _ annotates]

-----------------------------------------------------------------------------------------
-- Data the delayed queue takes
-----------------------------------------------------------------------------------------

/-- A text that names a delivery, and is not read as a date. -/
def namesDelivery : Option Json → Bool
  | some (.string text) => trim text ≠ "" && (isoFields text).isNone
  | _ => false

/-- The record names a delivery and has a payload. -/
def accepted (record : JobRecord) : Bool :=
  namesDelivery (record.lookup "deliveryId") && (record.lookup "payload").isSome

/-- By induction on the record. -/
theorem lookup_parseMembers (record : JobRecord) (key : String)
    : (parseMembers record).lookup key
      = (record.lookup key).map JobSerializer.deepCloneAndParseDates := by
  induction record with
  | nil => rfl
  | cons member rest ih =>
      obtain ⟨name, value⟩ := member
      rw [parseMembers, List.lookup_cons, List.lookup_cons]
      cases key == name with
      | true => rfl
      | false => exact ih

theorem get_readBack {record : JobRecord} (plain : record.lookup "__proto__" = none) (key : String)
    : (readBack record).value.get key
      = (record.lookup key).map JobSerializer.deepCloneAndParseDates := by
  have noProto : (parseMembers record).lookup "__proto__" = none := by
    rw [lookup_parseMembers, plain]
    rfl
  have own : ownMembers (parseMembers record) = parseMembers record := by
    refine List.filter_eq_self.mpr (fun member found => decide_eq_true ?_)
    have other := List.lookup_eq_none_iff.mp noProto member found
    exact fun same => by simp [same] at other
  have inherited : inheritedMembers (parseMembers record) = [] := by
    rw [inheritedMembers, noProto]
  have members
      : (readBack record).value.get key
        = (ownMembers (parseMembers record) ++ inheritedMembers (parseMembers record)).lookup key :=
    rfl
  rw [members, own, inherited, List.append_nil, lookup_parseMembers]

theorem lookup_proto_of_carries {record : JobRecord} (carried : carries record = true)
    : record.lookup "__proto__" = none := by
  refine List.lookup_eq_none_iff.mpr (fun member found => ?_)
  have kept := List.all_eq_true.mp carried member found
  by_cases same : member.1 = "__proto__"
  · simp [same, isAnnotationKey] at kept
  · exact bne_iff_ne.mpr (Ne.symm same)

/-- The validation of what is read accepts the text of a delivery and any payload. -/
theorem validate_readBack {record : JobRecord} (plain : record.lookup "__proto__" = none)
    : JobSerializer.validateJobData (readBack record).value = .ok () ↔ accepted record = true := by
  rw [JobSerializer.validateJobData, get_readBack plain, get_readBack plain, accepted]
  have object : JobSerializer.isObject (readBack record).value = true := rfl
  simp only [object, Bool.not_true, Bool.false_eq_true, if_false, Option.isNone_map]
  cases record.lookup "deliveryId" with
  | none => exact ⟨(by rintro ⟨⟩), (by rintro ⟨⟩)⟩
  | some deliveryId =>
      cases deliveryId with
      | string text =>
          simp only [Option.map_some, JobSerializer.deepCloneAndParseDates, JobSerializer.parseText,
            namesDelivery]
          cases isoFields text with
          | some fields => simp [bind, Except.bind]
          | none =>
              by_cases blank : trim text = ""
              · simp [blank, bind, Except.bind]
              · cases record.lookup "payload" <;> simp [blank, pure, Except.pure]
      | null => exact ⟨(by rintro ⟨⟩), (by rintro ⟨⟩)⟩
      | bool value => exact ⟨(by rintro ⟨⟩), (by rintro ⟨⟩)⟩
      | number value => exact ⟨(by rintro ⟨⟩), (by rintro ⟨⟩)⟩
      | array elements => exact ⟨(by rintro ⟨⟩), (by rintro ⟨⟩)⟩
      | object members => exact ⟨(by rintro ⟨⟩), (by rintro ⟨⟩)⟩

-----------------------------------------------------------------------------------------
-- What a move adds
-----------------------------------------------------------------------------------------

/-- The delayed queue has its data validated. -/
def ManagerMove.accepts (move : ManagerMove) (record : JobRecord) : Bool :=
  match move with
  | toDLQ _ => true
  | toDelayed _ => accepted record

theorem ManagerMove.written_alike_iff (move : ManagerMove) (record : JobRecord) (now : Int)
    : (∃ copied,
        move.written record now = .ok copied
        ∧ withoutAnnotations copied = withoutAnnotations record)
      ↔ carries record = true ∧ move.accepts record = true := by
  cases move with
  | toDLQ reason =>
      rw [← carries_iff record, written, accepts]
      cases copyMembers record with
      | error error => simp [Except.map]
      | ok copied => simp [Except.map, withoutAnnotations_annotate]
  | toDelayed delayMs =>
      rw [written, encoded, serialize_readBack, accepts]
      constructor
      · rintro ⟨copied, written, same⟩
        obtain ⟨_, valid, written⟩ := Settled.bind_eq_ok.mp written
        have carried := (carries_iff record).mp ⟨copied, written, same⟩
        exact ⟨carried, (validate_readBack (lookup_proto_of_carries carried)).mp valid⟩
      · rintro ⟨carried, accepted⟩
        have valid := (validate_readBack (lookup_proto_of_carries carried)).mpr accepted
        obtain ⟨copied, written, same⟩ := (carries_iff record).mpr carried
        exact ⟨copied, Settled.bind_eq_ok.mpr ⟨(), valid, written⟩, same⟩

-----------------------------------------------------------------------------------------
-- What the queues hold
-----------------------------------------------------------------------------------------

/-- The data the queues hold, each as often as it is held. -/
def held (world : ManagerWorld) : Multiset ManagedData :=
  world.main.contents + world.delayed.contents + world.dlq.contents

/-- A new queue in the place of an old one. -/
theorem held_setQueue (world : ManagerWorld) (name : ManagedQueue)
    (queue : BullQueue ManagedData)
    : held (world.setQueue name queue) + (world.queue name).contents
      = held world + queue.contents := by
  cases name with
  | main | delayed | dlq =>
      simp only [held, ManagerWorld.setQueue, ManagerWorld.queue]
      ac_rfl

theorem held_without {world : ManagerWorld} {queue : ManagedQueue} {job : ManagedJob}
    (member : job ∈ (world.queue queue).jobs)
    : held world = job.data ::ₘ held (world.without queue job) := by
  have removed
      : ((world.queue queue).contents : Multiset ManagedData)
        = job.data ::ₘ ((world.queue queue).remove job.id).contents :=
    Multiset.coe_eq_coe.mpr (BullQueue.contents_remove_perm member)
  have replaced := held_setQueue world queue ((world.queue queue).remove job.id)
  rw [removed, Multiset.add_cons, ← Multiset.cons_add] at replaced
  exact (add_right_cancel replaced).symm

theorem held_added (world : ManagerWorld) (queue : ManagedQueue) (name : String)
    (data : ManagedData) (delay : Number)
    : held (world.setQueue queue ((world.queue queue).add name data delay))
      = data ::ₘ held world := by
  have grown
      : (((world.queue queue).add name data delay).contents : Multiset ManagedData)
        = data ::ₘ (world.queue queue).contents :=
    Multiset.coe_eq_coe.mpr BullQueue.contents_add_perm
  have replaced := held_setQueue world queue ((world.queue queue).add name data delay)
  rw [grown, Multiset.add_cons, ← Multiset.cons_add] at replaced
  exact add_right_cancel replaced

/-- Data without the annotations of their record. -/
def ManagedData.plain (data : ManagedData) : ManagedData :=
  { data with record := data.record.map withoutAnnotations }

/-- After the call the queues hold what they held, each as often, up to the annotations. -/
def Conserves (env : ManagerEnvironment) (world : ManagerWorld) (program : ManagerProgram Unit)
    : Prop :=
  (held (program.run (managerSystem env) world).2).map ManagedData.plain
    = (held world).map ManagedData.plain

/-- A move conserves the jobs if and only if the record of the job it takes out is the same when it
is written again, the delayed queue would take it, and adding it does not fail.
-/
theorem move_conserves_iff (move : ManagerMove) (env : ManagerEnvironment) (world : ManagerWorld)
    (jobId : String)
    : Conserves env world (move.program jobId)
      ↔ ∀ job queue record,
          TakesOut env world jobId job queue record
          → carries record = true
            ∧ move.accepts record = true
            ∧ env.fault (world.without queue job) (.add move.target) = none := by
  rw [Conserves]
  generalize effect : ((move.program jobId).run (managerSystem env) world).2 = after
  have cases_of_move := move.moved env world jobId
  rw [effect] at cases_of_move
  cases cases_of_move with
  | idle nothing =>
      exact ⟨fun _ job queue record taken => absurd taken (nothing job queue record), fun _ => rfl⟩
  | @dropped job queue record error taken failed =>
      rw [held_without taken.member.1, Multiset.map_cons]
      constructor
      · intro same
        have shorter := congrArg Multiset.card same
        rw [Multiset.card_cons] at shorter
        omega
      · intro condition
        obtain ⟨carried, accepted, added⟩ := condition job queue record taken
        obtain ⟨copied, wrote, _⟩ := (move.written_alike_iff record _).mpr ⟨carried, accepted⟩
        rcases failed with failed | failed
        · cases wrote.symm.trans failed
        · cases added.symm.trans failed
  | @added job queue record copied name delay taken wrote accepted =>
      rw [held_without taken.member.1, held_added, Multiset.map_cons, Multiset.map_cons,
        Multiset.cons_inj_left]
      have alike
          : ManagedData.plain ⟨job.data.ticket, some copied⟩ = job.data.plain
            ↔ withoutAnnotations copied = withoutAnnotations record := by
        simp [ManagedData.plain, taken.stored]
      rw [alike]
      constructor
      · intro same other otherQueue otherRecord otherTaken
        obtain ⟨rfl, rfl, rfl⟩ := taken.unique otherTaken
        obtain ⟨carried, accepts⟩ := (move.written_alike_iff record _).mp ⟨copied, wrote, same⟩
        exact ⟨carried, accepts, accepted⟩
      · intro condition
        obtain ⟨carried, accepts, _⟩ := condition job queue record taken
        obtain ⟨other, otherWrote, same⟩ :=
          (move.written_alike_iff record _).mpr ⟨carried, accepts⟩
        cases wrote.symm.trans otherWrote
        exact same

/-- One enqueued job, with a text that reads as a date which does not exist. -/
def datedWorld : ManagerWorld :=
  ((QueueManager.enqueueJob 0
      ⟨[("deliveryId", .string "d1"), ("payload", .string "2024-13-45T00:00:00.000Z")], []⟩ {}).run
    (managerSystem .quiet) .empty).2

/-- No queue fails, and the job is gone: its removal comes before the date is written. -/
theorem moved_job_lost
    : (held datedWorld).card = 1
      ∧ held (((ManagerMove.toDLQ "failed").program "1").run (managerSystem .quiet) datedWorld).2 = 0
      ∧ ¬Conserves .quiet datedWorld ((ManagerMove.toDLQ "failed").program "1") := by
  have once : (held datedWorld).card = 1 := by decide +kernel
  have lost
      : held (((ManagerMove.toDLQ "failed").program "1").run (managerSystem .quiet) datedWorld).2
        = 0 := by
    refine Multiset.card_eq_zero.mp ?_
    decide +kernel
  refine ⟨once, lost, fun conserved => ?_⟩
  have same := congrArg Multiset.card conserved
  rw [Multiset.card_map, Multiset.card_map, lost, once] at same
  exact absurd same (by decide)

end QueueForge.Queue
