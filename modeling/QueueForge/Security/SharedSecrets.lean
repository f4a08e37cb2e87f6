import QueueForge.Async.Interleaving
import QueueForge.Security.SecretsManager

/-! Where the secrets come from that `SecretsManager` resolves with, when calls of any number of
processes interleave.
-/

namespace QueueForge.Security

open QueueForge.Async QueueForge.Infrastructure QueueForge.Js

namespace SecretRequest

/-- The secret that a call looks up. -/
def looksUp : SecretRequest → Option String
  | getSecret key => some key
  | requireSecret key => some key
  | hasSecret key => some key
  | _ => none

/-- The secret that a call sets, and its value. -/
def sets : SecretRequest → Option (String × String)
  | setSecret key value => some (key, value)
  | rotateSecret key newValue => some (key, newValue)
  | _ => none

end SecretRequest

namespace SecretsCall

def isRead : SecretsCall → Bool
  | remembered _ => true
  | getenv _ => true
  | get _ => true
  | _ => false

def isKept : SecretsCall → Bool
  | remember _ _ => true
  | putenv _ _ => true
  | _ => false

def isPublished : SecretsCall → Bool
  | set _ _ _ => true
  | _ => false

end SecretsCall

/-- The processes and Redis, and which calls have read, have kept something in their process and
have published something in Redis, and when.
-/
structure SharedSecrets (ρ ι : Type) where
  world : SecretsWorld ρ
  reads : List (ι × Int)
  keeps : List (ι × Int)
  publications : List (ι × Int)

section

variable {ρ ι : Type}

def sharedSecrets [DecidableEq ρ] (home : ι → ρ) (elapsed : Nat → Nat)
    (faults : Nat → Option Bool) (caller : ι)
    : Handler SecretsSignature Thrown (SharedSecrets ρ ι) :=
  fun op shared =>
    let answered := secretsServer elapsed faults (home caller) op shared.world
    let note (noted : Bool) (notes : List (ι × Int)) :=
      if noted then (caller, shared.world.now) :: notes else notes
    (answered.1,
      {
        world := answered.2
        reads := note op.isRead shared.reads
        keeps := note op.isKept shared.keeps
        publications :=
          note (op.isPublished && (faults shared.world.step).getD true) shared.publications
      })

/-- The calls, before any of them has begun. -/
def secretRequests (toUpperCase : String → String) (wired : Bool) (requests : ι → SecretRequest)
    (world : SecretsWorld ρ)
    : Configuration SecretsSignature Thrown ι (Option String) (SharedSecrets ρ ι) where
  process caller := (requests caller).program toUpperCase wired
  world := ⟨world, [], [], []⟩

namespace SharedSecrets

variable (toUpperCase : String → String) (home : ι → ρ) (requests : ι → SecretRequest)
  (env : ρ → String → Option String) (shared : SharedSecrets ρ ι)

/-- By a time a call has set a secret in its process. -/
def KeptIn (place : ρ) (time : Int) (key value : String) : Prop :=
  ∃ setter set,
    home setter = place
    ∧ (requests setter).sets = some (key, value)
    ∧ (setter, set) ∈ shared.keeps
    ∧ set ≤ time

/-- By a time a call in a process has asked Redis for a secret, less than sixty milliseconds after
another call has set it there.
-/
def LearntIn (place : ρ) (time : Int) (key value : String) : Prop :=
  ∃ setter set reader read,
    (requests setter).sets = some (key, value)
    ∧ (setter, set) ∈ shared.publications
    ∧ home reader = place
    ∧ (requests reader).looksUp = some key
    ∧ (reader, read) ∈ shared.reads
    ∧ set ≤ read
    ∧ read < set + 60
    ∧ read ≤ time

/-- A process has come by the value of a secret by a time: from its environment as it was at first,
under one of the names, or by a call that set it there, or from Redis.
-/
def Known (place : ρ) (time : Int) (key value : String) : Prop :=
  (∃ name ∈ SecretsManager.names toUpperCase key,
      env place name = some value ∨ shared.KeptIn home requests place time name value)
  ∨ shared.LearntIn home requests place time key value

/-- What a call is told of a secret its process has known for less than a minute. -/
def Tells (caller : ι) (key value : String) : Prop :=
  ∃ told known,
    (caller, told) ∈ shared.reads
    ∧ known ≤ told
    ∧ told < known + 60000
    ∧ shared.Known toUpperCase home requests env (home caller) known key value

/-- What is remembered, what the environments hold and what Redis holds has a source each. -/
structure Sourced : Prop where
  past : ∀ entry ∈ shared.reads, entry.2 ≤ shared.world.now
  remembered
    : ∀ place key value expiry,
        (shared.world.process place).memory key = some (value, expiry)
        → ∃ known,
            expiry = known + 60000
            ∧ known ≤ shared.world.now
            ∧ shared.Known toUpperCase home requests env place known key value
  environment
    : ∀ place name value,
        (shared.world.process place).env name = some value
        → env place name = some value
          ∨ shared.KeptIn home requests place shared.world.now name value
  held
    : ∀ key stored,
        shared.world.redis (SecretsManager.redisKey key) = some stored
        → ∃ setter set,
            (requests setter).sets = some (key, stored.value)
            ∧ (setter, set) ∈ shared.publications
            ∧ set ≤ shared.world.now
            ∧ stored.expiresAt = some (set + 60)

variable {toUpperCase home requests env shared} {later : SharedSecrets ρ ι} {place : ρ}
  {key value : String} {time after : Int}

theorem KeptIn.mono (kept : shared.KeptIn home requests place time key value)
    (keeps : shared.keeps ⊆ later.keeps) (ordered : time ≤ after)
    : later.KeptIn home requests place after key value := by
  obtain ⟨setter, set, here, sets, noted, before⟩ := kept
  exact ⟨setter, set, here, sets, keeps noted, before.trans ordered⟩

/-- What has been noted stays noted. -/
structure Extends (later shared : SharedSecrets ρ ι) : Prop where
  reads : shared.reads ⊆ later.reads
  keeps : shared.keeps ⊆ later.keeps
  publications : shared.publications ⊆ later.publications
  now : shared.world.now ≤ later.world.now

theorem Known.mono (known : shared.Known toUpperCase home requests env place time key value)
    (extends_ : later.Extends shared) (ordered : time ≤ after)
    : later.Known toUpperCase home requests env place after key value := by
  rcases known with ⟨name, named, initially | kept⟩ | learnt
  · exact .inl ⟨name, named, .inl initially⟩
  · exact .inl ⟨name, named, .inr (kept.mono extends_.keeps ordered)⟩
  · obtain ⟨setter, set, reader, read, sets, published, here, looksUp, noted, past, soon, before⟩ :=
      learnt
    exact .inr ⟨setter, set, reader, read, sets, extends_.publications published, here, looksUp,
      extends_.reads noted, past, soon, before.trans ordered⟩

theorem Tells.mono {caller : ι} (tells : shared.Tells toUpperCase home requests env caller key value)
    (extends_ : later.Extends shared)
    : later.Tells toUpperCase home requests env caller key value := by
  obtain ⟨told, known, noted, past, soon, knows⟩ := tells
  exact ⟨told, known, extends_.reads noted, past, soon, knows.mono extends_ le_rfl⟩

section

variable [DecidableEq ρ] {elapsed : Nat → Nat} {faults : Nat → Option Bool}

theorem extends_sharedSecrets (caller : ι) (op : SecretsCall)
    : (sharedSecrets home elapsed faults caller op shared).2.Extends shared := by
  have noted (noted : Bool) (notes : List (ι × Int))
      : notes ⊆ if noted then (caller, shared.world.now) :: notes else notes := by
    cases noted with
    | false => exact List.Subset.refl _
    | true => exact List.subset_cons_self ..
  refine ⟨noted .., noted .., noted .., ?_⟩
  unfold sharedSecrets secretsServer
  dsimp only
  split
  · exact SecretsWorld.le_wait elapsed shared.world
  · exact SecretsWorld.le_wait elapsed shared.world

end

end SharedSecrets

namespace SecretRequest

/-- What a call is told of its secret when what it awaits settles. -/
def heard (toUpperCase : String → String) (request : SecretRequest)
    : (op : SecretsCall) → Settled Thrown op.Result → List String
  | .remembered _, .ok (some value) => [value]
  | .getenv name, .ok (some value) =>
      match request.looksUp with
      | some key => if name ∈ SecretsManager.names toUpperCase key then [value] else []
      | none => []
  | .get _, .ok (some value) => [value]
  | _, _ => []

/-- What a call may await, and which values it has been told. -/
def owes (toUpperCase : String → String) (request : SecretRequest)
    : Contract SecretsSignature Thrown (List String) where
  allows told op :=
    match op with
    | .remembered key => request.looksUp = some key
    | .remember key value =>
        request.looksUp = some key ∧ value ∈ told ∨ request.sets = some (key, value)
    | .putenv name value => request.sets = some (name, value)
    | .get key => ∃ name, request.looksUp = some name ∧ key = SecretsManager.redisKey name
    | .set key value ttlMs =>
        ∃ name,
          request.sets = some (name, value) ∧ key = SecretsManager.redisKey name ∧ ttlMs = 60
    | _ => True
  answers told op result after := after = request.heard toUpperCase op result ++ told

/-- A call resolves with a secret that it has been told, or with none. -/
def SettlesWith (outcome : Settled Thrown (Option String)) (told : List String) : Prop :=
  ∀ value, outcome = .ok (some value) → value = "" ∨ value ∈ told

section

variable {toUpperCase : String → String} {wired : Bool} {request : SecretRequest}
  {told : List String} {key value : String}

/-- A disjunction is one of its parts. -/
theorem eq_of_orString {text : String} {val : Option String}
    (filled : orString val none = some text)
    : val = some text := by
  cases val with
  | none => exact filled
  | some val =>
      by_cases empty : val = ""
      · rw [empty] at filled
        contradiction
      · exact (orString_of_ne_empty empty none).symm.trans filled

theorem eq_or_eq_of_orString {text : String} {left right : Option String}
    (filled : orString left right = some text)
    : left = some text ∨ right = some text := by
  cases left with
  | none => exact .inr filled
  | some first =>
      by_cases empty : first = ""
      · rw [empty] at filled
        exact .inr filled
      · exact .inl ((orString_of_ne_empty empty right).symm.trans filled)

/-- A call that is awaited, whatever it settles with. -/
theorem meets_awaitSecrets {call : SecretsCall}
    {post : Settled Thrown call.Result → List String → Prop}
    (allowed : (request.owes toUpperCase).allows told call)
    (settled : ∀ result, post result (request.heard toUpperCase call result ++ told))
    : Program.Meets (α := no_index call.Result) (request.owes toUpperCase) (awaitSecrets call) told
        post := by
  unfold awaitSecrets
  rw [Program.meets_perform]
  refine ⟨allowed, ?_⟩
  rintro result after rfl
  exact settled result

theorem meets_throwInternal {α : Type} {message : String}
    {post : Settled Thrown α → List String → Prop}
    (failed : ∀ error after, post (.error error) after)
    : (SecretsManager.throwInternal message : SecretsProgram α).Meets (request.owes toUpperCase) told
        post := by
  refine Program.meets_bind.mpr (meets_awaitSecrets trivial (fun result => ?_))
  cases result with
  | error error => exact failed ..
  | ok mode => exact failed ..

theorem meets_fromRedis (looksUp : request.looksUp = some key)
    {post : Settled Thrown (Option String) → List String → Prop}
    (missing : ∀ after, told ⊆ after → post (.ok none) after)
    (found : ∀ value after, value ∈ after → told ⊆ after → post (.ok (some value)) after)
    : (SecretsManager.fromRedis wired key).Meets (request.owes toUpperCase) told post := by
  unfold SecretsManager.fromRedis
  rw [Program.meets_ite]
  refine ⟨fun _ => ?_, fun _ => missing told (List.Subset.refl told)⟩
  refine Program.meets_catchError.mpr (Program.meets_bind.mpr ?_)
  refine meets_awaitSecrets ⟨key, looksUp, rfl⟩ (fun result => ?_)
  cases result with
  | error error => exact missing _ (List.subset_append_right ..)
  | ok val =>
      dsimp only
      cases filled : orString val none with
      | none => exact missing _ (List.subset_append_right ..)
      | some text =>
          obtain rfl := eq_of_orString filled
          refine Program.meets_bind.mpr (meets_awaitSecrets (.inl ⟨looksUp, List.mem_cons_self⟩) ?_)
          intro result
          cases result with
          | error error => exact missing _ (List.subset_cons_self ..)
          | ok done => exact found text _ List.mem_cons_self (List.subset_cons_self ..)

theorem meets_fromEnvironment (looksUp : request.looksUp = some key)
    {post : Settled Thrown String → List String → Prop}
    (failed : ∀ error after, post (.error error) after)
    (resolved : ∀ value after, value = "" ∨ value ∈ after → post (.ok value) after)
    : (SecretsManager.fromEnvironment toUpperCase key).Meets (request.owes toUpperCase) told
        post := by
  have hears {name value : String} (named : name ∈ SecretsManager.names toUpperCase key)
      {asked : Option String} (told : asked = some value)
      : value ∈ request.heard toUpperCase (.getenv name) (.ok asked) := by
    rw [told, heard, looksUp]
    dsimp only
    rw [if_pos named]
    exact List.mem_cons_self
  unfold SecretsManager.fromEnvironment
  refine Program.meets_bind.mpr (meets_awaitSecrets trivial (fun result => ?_))
  cases result with
  | error error => exact failed ..
  | ok named =>
      refine Program.meets_bind.mpr (meets_awaitSecrets trivial (fun result => ?_))
      cases result with
      | error error => exact failed ..
      | ok upper =>
          refine Program.meets_bind.mpr (meets_awaitSecrets trivial (fun result => ?_))
          cases result with
          | error error => exact failed ..
          | ok spelled =>
              dsimp only
              cases held : orString (orString named upper) spelled with
              | none => exact resolved "" _ (.inl rfl)
              | some envVal =>
                  have known
                      : envVal
                        ∈ request.heard toUpperCase
                            (.getenv (toUpperCase (SecretsManager.underscored key))) (.ok spelled)
                          ++ (request.heard toUpperCase (.getenv (toUpperCase key)) (.ok upper)
                            ++ (request.heard toUpperCase (.getenv key) (.ok named) ++ told)) := by
                    rcases eq_or_eq_of_orString held with first | third
                    · rcases eq_or_eq_of_orString first with first | second
                      · exact List.mem_append_right _ (List.mem_append_right _
                          (List.mem_append_left _ (hears (by simp [SecretsManager.names]) first)))
                      · exact List.mem_append_right _
                          (List.mem_append_left _ (hears (by simp [SecretsManager.names]) second))
                    · exact List.mem_append_left _ (hears (by simp [SecretsManager.names]) third)
                  refine Program.meets_bind.mpr (meets_awaitSecrets (.inl ⟨looksUp, known⟩) ?_)
                  intro result
                  cases result with
                  | error error => exact failed ..
                  | ok done => exact resolved envVal _ (.inr (List.mem_append_right _ known))

theorem meets_getSecret (looksUp : request.looksUp = some key)
    {post : Settled Thrown String → List String → Prop}
    (failed : ∀ error after, post (.error error) after)
    (resolved : ∀ value after, value = "" ∨ value ∈ after → post (.ok value) after)
    : (SecretsManager.getSecret toUpperCase wired key).Meets (request.owes toUpperCase) told
        post := by
  unfold SecretsManager.getSecret
  rw [Program.meets_ite]
  refine ⟨fun _ => resolved "" _ (.inl rfl), fun _ => ?_⟩
  refine Program.meets_bind.mpr (meets_awaitSecrets looksUp (fun result => ?_))
  cases result with
  | error error => exact failed ..
  | ok cached =>
      cases cached with
      | some value => exact resolved value _ (.inr List.mem_cons_self)
      | none =>
          refine Program.meets_bind.mpr (meets_fromRedis looksUp ?_ ?_)
          · exact fun after _ => meets_fromEnvironment looksUp failed resolved
          · exact fun value after mem _ => resolved value after (.inr mem)

theorem meets_setSecret (sets : request.sets = some (key, value))
    {post : Settled Thrown Unit → List String → Prop}
    (settled : ∀ outcome after, post outcome after)
    : (SecretsManager.setSecret wired key value).Meets (request.owes toUpperCase) told post := by
  unfold SecretsManager.setSecret
  rw [Program.meets_ite]
  refine ⟨fun _ => meets_throwInternal (fun _ after => settled _ after), fun _ => ?_⟩
  refine Program.meets_bind.mpr (meets_awaitSecrets (.inr sets) (fun result => ?_))
  cases result with
  | error error => exact settled ..
  | ok done =>
      refine Program.meets_bind.mpr (meets_awaitSecrets sets (fun result => ?_))
      cases result with
      | error error => exact settled ..
      | ok done =>
          dsimp only
          rw [Program.meets_ite]
          refine ⟨fun _ => Program.meets_catchError.mpr ?_, fun _ => settled ..⟩
          refine meets_awaitSecrets ⟨key, sets, rfl, rfl⟩ (fun result => ?_)
          cases result with
          | error error => exact settled ..
          | ok done => exact settled ..

end

theorem program_meets (toUpperCase : String → String) (wired : Bool) (request : SecretRequest)
    : (request.program toUpperCase wired).Meets (request.owes toUpperCase) [] SettlesWith := by
  have settles (error : Thrown) (after : List String) : SettlesWith (.error error) after := by
    rintro value ⟨⟩
  have silent (after : List String) : SettlesWith (.ok none) after := by
    rintro value ⟨⟩
  have resolves (value : String) (after : List String) (known : value = "" ∨ value ∈ after)
      : SettlesWith (.ok (some value)) after := by
    rintro _ ⟨⟩
    exact known
  cases request with
  | getSecret key => exact Program.meets_bind.mpr (meets_getSecret rfl settles resolves)
  | requireSecret key =>
      refine Program.meets_bind.mpr (Program.meets_bind.mpr (meets_getSecret rfl settles ?_))
      intro value after known
      dsimp only
      rw [Program.meets_ite]
      exact ⟨fun _ => meets_throwInternal settles, fun _ => resolves value after known⟩
  | hasSecret key =>
      exact Program.meets_bind.mpr (Program.meets_bind.mpr
        (meets_getSecret rfl settles (fun _ after _ => silent after)))
  | setSecret key value =>
      refine Program.meets_bind.mpr (meets_setSecret rfl (fun outcome after => ?_))
      cases outcome with
      | error error => exact settles error after
      | ok done => exact silent after
  | rotateSecret key newValue =>
      refine Program.meets_bind.mpr (meets_setSecret rfl (fun outcome after => ?_))
      cases outcome with
      | error error => exact settles error after
      | ok done => exact silent after
  | deleteSecret key =>
      refine Program.meets_bind.mpr (Program.meets_bind.mpr ?_)
      refine meets_awaitSecrets trivial (fun result => ?_)
      cases result with
      | error error => exact settles error _
      | ok done =>
          refine Program.meets_bind.mpr (meets_awaitSecrets trivial (fun result => ?_))
          cases result with
          | error error => exact settles error _
          | ok done =>
              dsimp only
              rw [Program.meets_ite]
              refine ⟨fun _ => Program.meets_catchError.mpr ?_, fun _ => silent _⟩
              refine meets_awaitSecrets trivial (fun result => ?_)
              cases result with
              | error error => exact silent _
              | ok done => exact silent _

end SecretRequest

namespace SharedSecrets

variable {toUpperCase : String → String} {home : ι → ρ} {requests : ι → SecretRequest}
  {env : ρ → String → Option String} {shared : SharedSecrets ρ ι}

/-- What is remembered, what the environments hold and what Redis holds is as before or has got a
source.
-/
theorem Sourced.of_entries (sourced : shared.Sourced toUpperCase home requests env)
    {later : SharedSecrets ρ ι} (extends_ : later.Extends shared)
    (past : ∀ entry ∈ later.reads, entry.2 ≤ later.world.now)
    (remembered
      : ∀ place key entry,
          (later.world.process place).memory key = some entry
          → (shared.world.process place).memory key = some entry
            ∨ ∃ known,
                entry.2 = known + 60000
                ∧ known ≤ later.world.now
                ∧ later.Known toUpperCase home requests env place known key entry.1)
    (environment
      : ∀ place name value,
          (later.world.process place).env name = some value
          → (shared.world.process place).env name = some value
            ∨ later.KeptIn home requests place later.world.now name value)
    (held
      : ∀ key stored,
          later.world.redis (SecretsManager.redisKey key) = some stored
          → shared.world.redis (SecretsManager.redisKey key) = some stored
            ∨ ∃ setter set,
                (requests setter).sets = some (key, stored.value)
                ∧ (setter, set) ∈ later.publications
                ∧ set ≤ later.world.now
                ∧ stored.expiresAt = some (set + 60))
    : later.Sourced toUpperCase home requests env where
  past := past
  remembered place key value expiry found := by
    rcases remembered place key (value, expiry) found with before | now
    · obtain ⟨known, expires, past, knows⟩ := sourced.remembered place key value expiry before
      exact ⟨known, expires, past.trans extends_.now, knows.mono extends_ le_rfl⟩
    · exact now
  environment place name value found := by
    rcases environment place name value found with before | now
    · rcases sourced.environment place name value before with initially | kept
      · exact .inl initially
      · exact .inr (kept.mono extends_.keeps extends_.now)
    · exact .inr now
  held key stored found := by
    rcases held key stored found with before | now
    · obtain ⟨setter, set, sets, published, past, expires⟩ := sourced.held key stored before
      exact ⟨setter, set, sets, extends_.publications published, past.trans extends_.now, expires⟩
    · exact now

/-- What a call knows it has been told. -/
def Noted (toUpperCase : String → String) (home : ι → ρ) (requests : ι → SecretRequest)
    (env : ρ → String → Option String) (shared : SharedSecrets ρ ι) (caller : ι)
    (told : List String)
    : Prop :=
  ∀ value ∈ told,
    ∃ key,
      (requests caller).looksUp = some key
      ∧ shared.Tells toUpperCase home requests env caller key value

/-- What a call has been told its process knows later on. -/
theorem Noted.known {caller : ι} {told : List String}
    (noted : Noted toUpperCase home requests env shared caller told)
    (sourced : shared.Sourced toUpperCase home requests env) {key value : String}
    (looksUp : (requests caller).looksUp = some key) (mem : value ∈ told)
    {later : SharedSecrets ρ ι} (extends_ : later.Extends shared)
    : later.Known toUpperCase home requests env (home caller) shared.world.now key value := by
  obtain ⟨asked, looksUp', told, known, read, past, _, knows⟩ := noted value mem
  obtain rfl := Option.some.inj (looksUp.symm.trans looksUp')
  exact knows.mono extends_ (past.trans (sourced.past _ read))

section

variable [DecidableEq ρ] {elapsed : Nat → Nat} {faults : Nat → Option Bool} {caller : ι}
  {op : SecretsCall}

theorem process_sharedSecrets
    : (sharedSecrets home elapsed faults caller op shared).2.world.process
      = Function.update shared.world.process (home caller)
          (op.answer shared.world.now (shared.world.process (home caller))
            shared.world.redis).2.1 := by
  unfold sharedSecrets secretsServer
  dsimp only
  split
  · rfl
  · rfl

/-- Redis stays as it was, or a command is carried out and noted if it sets something. -/
theorem redis_sharedSecrets (home : ι → ρ) (elapsed : Nat → Nat) (faults : Nat → Option Bool)
    (shared : SharedSecrets ρ ι) (caller : ι) (op : SecretsCall)
    : (sharedSecrets home elapsed faults caller op shared).2.world.redis = shared.world.redis
      ∨ (sharedSecrets home elapsed faults caller op shared).2.world.redis
          = (op.answer shared.world.now (shared.world.process (home caller))
              shared.world.redis).2.2
        ∧ (op.isPublished = true
          → (caller, shared.world.now)
            ∈ (sharedSecrets home elapsed faults caller op shared).2.publications) := by
  unfold sharedSecrets secretsServer
  dsimp only
  cases lost : faults shared.world.step with
  | none =>
      refine .inr ⟨rfl, fun published => ?_⟩
      rw [published]
      exact List.mem_cons_self
  | some carriedOut =>
      cases command : op.isCommand with
      | false =>
          refine .inr ⟨rfl, fun published => ?_⟩
          cases op <;> contradiction
      | true =>
          cases carriedOut with
          | false => exact .inl rfl
          | true =>
              refine .inr ⟨rfl, fun published => ?_⟩
              rw [published]
              exact List.mem_cons_self

theorem Sourced.step (sourced : shared.Sourced toUpperCase home requests env) {told : List String}
    (noted : Noted toUpperCase home requests env shared caller told)
    (allowed : ((requests caller).owes toUpperCase).allows told op)
    : (sharedSecrets home elapsed faults caller op shared).2.Sourced toUpperCase home requests
        env := by
  have extends_ : (sharedSecrets home elapsed faults caller op shared).2.Extends shared :=
    extends_sharedSecrets caller op
  refine sourced.of_entries extends_ ?_ ?_ ?_ ?_
  · intro entry mem
    have read : entry = (caller, shared.world.now) ∨ entry ∈ shared.reads := by
      unfold sharedSecrets at mem
      dsimp only at mem
      split at mem
      · exact List.mem_cons.mp mem
      · exact .inr mem
    rcases read with rfl | before
    · exact extends_.now
    · exact (sourced.past entry before).trans extends_.now
  · intro place key entry found
    rw [process_sharedSecrets, Function.update_apply] at found
    split at found
    · next here =>
        subst here
        cases op with
        | remember remembers text =>
            dsimp only [SecretsCall.answer] at found
            rw [Function.update_apply] at found
            split at found
            · next same =>
                subst same
                obtain rfl := Option.some.inj found
                refine .inr ⟨shared.world.now, rfl, extends_.now, ?_⟩
                rcases allowed with ⟨looksUp, mem⟩ | sets
                · exact noted.known sourced looksUp mem extends_
                · exact .inl ⟨key, List.mem_cons_self,
                    .inr ⟨caller, shared.world.now, rfl, sets, List.mem_cons_self, le_rfl⟩⟩
            · exact .inl found
        | forget gone =>
            dsimp only [SecretsCall.answer] at found
            rw [Function.update_apply] at found
            split at found
            · contradiction
            · exact .inl found
        | _ => exact .inl found
    · exact .inl found
  · intro place name value found
    rw [process_sharedSecrets, Function.update_apply] at found
    split at found
    · next here =>
        subst here
        cases op with
        | putenv set text =>
            dsimp only [SecretsCall.answer] at found
            rw [Function.update_apply] at found
            split at found
            · next same =>
                subst same
                obtain rfl := Option.some.inj found
                exact .inr ⟨caller, shared.world.now, rfl, allowed, List.mem_cons_self, extends_.now⟩
            · exact .inl found
        | unsetenv gone =>
            dsimp only [SecretsCall.answer] at found
            rw [Function.update_apply] at found
            split at found
            · contradiction
            · exact .inl found
        | _ => exact .inl found
    · exact .inl found
  · intro key stored found
    rcases redis_sharedSecrets home elapsed faults shared caller op with same | ⟨carriedOut, published⟩
    · rw [same] at found
      exact .inl found
    · rw [carriedOut] at found
      cases op with
      | set redisKey value ttlMs =>
          obtain ⟨name, sets, rfl, rfl⟩ := allowed
          dsimp only [SecretsCall.answer] at found
          rw [set_sixty, Function.update_apply] at found
          split at found
          · next same =>
              obtain rfl := SecretsManager.redisKey_inj same
              obtain rfl := Option.some.inj found
              exact .inr ⟨caller, shared.world.now, sets, published rfl, extends_.now, rfl⟩
          · exact .inl found
      | del gone =>
          dsimp only [SecretsCall.answer] at found
          rw [Function.update_apply] at found
          split at found
          · contradiction
          · exact .inl found
      | _ => exact .inl found

/-- What is awaited is answered, or a command is lost. -/
theorem answer_sharedSecrets (home : ι → ρ) (elapsed : Nat → Nat) (faults : Nat → Option Bool)
    (shared : SharedSecrets ρ ι) (caller : ι) (op : SecretsCall)
    : (sharedSecrets home elapsed faults caller op shared).1
        = (op.answer shared.world.now (shared.world.process (home caller)) shared.world.redis).1
      ∨ op.isCommand = true
        ∧ (sharedSecrets home elapsed faults caller op shared).1
          = .error (redisError "Connection is closed.") := by
  unfold sharedSecrets secretsServer
  dsimp only
  cases op.isCommand with
  | false =>
      cases faults shared.world.step with
      | none => exact .inl rfl
      | some carriedOut => exact .inl rfl
  | true =>
      cases faults shared.world.step with
      | none => exact .inl rfl
      | some carriedOut => exact .inr ⟨rfl, rfl⟩

/-- What a call is told of its secret. -/
theorem Sourced.tells (sourced : shared.Sourced toUpperCase home requests env) {told : List String}
    (allowed : ((requests caller).owes toUpperCase).allows told op) {value : String}
    (hears
      : value
        ∈ (requests caller).heard toUpperCase op
          (sharedSecrets home elapsed faults caller op shared).1)
    : ∃ key,
        (requests caller).looksUp = some key
        ∧ (sharedSecrets home elapsed faults caller op shared).2.Tells toUpperCase home requests env
          caller key value := by
  have extends_ : (sharedSecrets home elapsed faults caller op shared).2.Extends shared :=
    extends_sharedSecrets caller op
  rcases answer_sharedSecrets home elapsed faults shared caller op with answered | ⟨command, lost⟩
  · rw [answered] at hears
    cases op with
    | remembered key =>
        dsimp only [SecretsCall.answer] at hears
        cases kept
            : (shared.world.process (home caller)).remembered? shared.world.now key with
        | none =>
            rw [kept] at hears
            contradiction
        | some text =>
            rw [kept] at hears
            obtain rfl := List.mem_singleton.mp hears
            obtain ⟨expiry, held, ahead⟩ := remembered?_eq_some.mp kept
            obtain ⟨known, rfl, past, knows⟩ := sourced.remembered (home caller) key value expiry held
            exact ⟨key, allowed, shared.world.now, known, List.mem_cons_self, past, ahead,
              knows.mono extends_ le_rfl⟩
    | getenv name =>
        dsimp only [SecretsCall.answer] at hears
        cases held : (shared.world.process (home caller)).env name with
        | none =>
            rw [held] at hears
            contradiction
        | some text =>
            rw [held, SecretRequest.heard] at hears
            cases looksUp : (requests caller).looksUp with
            | none =>
                rw [looksUp] at hears
                contradiction
            | some key =>
                rw [looksUp] at hears
                dsimp only at hears
                split at hears
                · next named =>
                    obtain rfl := List.mem_singleton.mp hears
                    refine ⟨key, rfl, shared.world.now, shared.world.now, List.mem_cons_self, le_rfl,
                      by omega, .inl ⟨name, named, ?_⟩⟩
                    rcases sourced.environment (home caller) name value held with initially | kept
                    · exact .inl initially
                    · exact .inr (kept.mono extends_.keeps le_rfl)
                · contradiction
    | get redisKey =>
        obtain ⟨key, looksUp, rfl⟩ := allowed
        dsimp only [SecretsCall.answer] at hears
        unfold RedisOperations.get at hears
        cases live : shared.world.redis.live? shared.world.now (SecretsManager.redisKey key) with
        | none =>
            rw [live] at hears
            contradiction
        | some stored =>
            rw [live] at hears
            obtain rfl := List.mem_singleton.mp hears
            obtain ⟨held, alive⟩ := Option.filter_eq_some_iff.mp live
            obtain ⟨setter, set, sets, published, past, expires⟩ := sourced.held key stored held
            rw [StoredText.liveAt, expires] at alive
            refine ⟨key, looksUp, shared.world.now, shared.world.now, List.mem_cons_self, le_rfl,
              by omega, .inr ⟨setter, set, caller, shared.world.now, sets,
                extends_.publications published, rfl, looksUp, List.mem_cons_self, past,
                of_decide_eq_true alive, le_rfl⟩⟩
    | _ => contradiction
  · rw [lost] at hears
    cases op <;> contradiction

theorem Noted.step (sourced : shared.Sourced toUpperCase home requests env) {told : List String}
    (noted : Noted toUpperCase home requests env shared caller told)
    (allowed : ((requests caller).owes toUpperCase).allows told op)
    : ∃ next,
        ((requests caller).owes toUpperCase).answers told op
          (sharedSecrets home elapsed faults caller op shared).1 next
        ∧ Noted toUpperCase home requests env
          (sharedSecrets home elapsed faults caller op shared).2 caller next := by
  refine ⟨_, rfl, fun value mem => ?_⟩
  rcases List.mem_append.mp mem with hears | before
  · exact sourced.tells allowed hears
  · obtain ⟨key, looksUp, tells⟩ := noted value before
    exact ⟨key, looksUp, tells.mono (extends_sharedSecrets caller op)⟩

end

end SharedSecrets

/-- However calls of any number of processes interleave, and whichever commands are lost: a secret
that a call resolves with is none, or its process has known it for less than a minute, from its own
environment, or from a call that set it there, or from Redis within sixty milliseconds of a call
that set it anywhere.
-/
theorem resolves_with_known [DecidableEq ρ] [DecidableEq ι] (toUpperCase : String → String)
    (wired : Bool) (home : ι → ρ) (requests : ι → SecretRequest) (elapsed : Nat → Nat)
    (faults : Nat → Option Bool) (world : SecretsWorld ρ)
    (forgotten : ∀ place key, (world.process place).memory key = none)
    (nothing : ∀ key, world.redis (SecretsManager.redisKey key) = none)
    {config : Configuration SecretsSignature Thrown ι (Option String) (SharedSecrets ρ ι)}
    (reached
      : Configuration.Reachable (sharedSecrets home elapsed faults) (fun _ _ _ => True)
          (secretRequests toUpperCase wired requests world) config)
    {caller : ι} {value : String} (resolved : config.process caller = .done (some value))
    : value = ""
      ∨ ∃ key,
          (requests caller).looksUp = some key
          ∧ config.world.Tells toUpperCase home requests (fun place => (world.process place).env)
            caller key value := by
  obtain ⟨phases, owed, _, noted⟩ :=
    @Configuration.Reachable.invariant _ _ _ _ _ _ (fun _ => List String) _ _
      (fun caller => (requests caller).owes toUpperCase) (fun _ => SecretRequest.SettlesWith)
      (fun phases shared =>
        shared.Sourced toUpperCase home requests (fun place => (world.process place).env)
        ∧ ∀ caller,
            shared.Noted toUpperCase home requests (fun place => (world.process place).env) caller
              (phases caller))
      (by
        rintro phases shared caller op ⟨sourced, noted⟩ allowed _
        obtain ⟨next, answered, knows⟩ := SharedSecrets.Noted.step sourced (noted caller) allowed
        refine ⟨next, answered, sourced.step (noted caller) allowed, fun other => ?_⟩
        by_cases same : other = caller
        · subst same
          rw [Function.update_self]
          exact knows
        · rw [Function.update_of_ne same]
          intro value mem
          obtain ⟨key, looksUp, tells⟩ := noted other value mem
          exact ⟨key, looksUp, tells.mono (SharedSecrets.extends_sharedSecrets caller op)⟩)
      _ config (fun _ => []) (fun caller => (requests caller).program_meets toUpperCase wired)
      (by
        refine ⟨⟨?_, ?_, ?_, ?_⟩, ?_⟩
        · exact fun entry mem => absurd mem List.not_mem_nil
        · exact fun place key value expiry held =>
            absurd ((forgotten place key).symm.trans held) (by simp)
        · exact fun place name value held => .inl held
        · exact fun key stored held => absurd ((nothing key).symm.trans held) (by simp)
        · exact fun caller value mem => absurd mem List.not_mem_nil)
      reached
  have here := owed caller
  rw [resolved] at here
  rcases here value rfl with empty | told
  · exact .inl empty
  · exact .inr (noted caller value told)

end

/-- One process sets a secret, another one looks it up. -/
def settingAndLookingUp : Bool → SecretRequest
  | false => .setSecret "HMAC_SECRET" "fresh"
  | true => .getSecret "HMAC_SECRET"

/-- The other process asks Redis when the secret has been set there. -/
def secretLookedUp
    : Configuration SecretsSignature Thrown Bool (Option String) (SharedSecrets Bool Bool) :=
  (secretRequests toUpperCase true settingAndLookingUp
      ⟨fun _ => ⟨fun _ => none, fun _ => none⟩, fun _ => none, 0, 0⟩).follow
    (sharedSecrets id (fun _ => 1) (fun _ => none)) [false, false, false, true, true, true]

theorem resolves_with_known_elsewhere
    : "fresh" = ""
      ∨ ∃ key,
          (settingAndLookingUp true).looksUp = some key
          ∧ secretLookedUp.world.Tells toUpperCase id settingAndLookingUp (fun _ _ => none) true key
            "fresh" := by
  refine resolves_with_known toUpperCase true id settingAndLookingUp (fun _ => 1) (fun _ => none)
    ⟨fun _ => ⟨fun _ => none, fun _ => none⟩, fun _ => none, 0, 0⟩ (fun _ _ => rfl) (fun _ => rfl)
    ?_ rfl
  exact Configuration.reachable_follow [false, false, false, true, true, true] _ rfl

end QueueForge.Security
