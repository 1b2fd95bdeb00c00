import ChatCommand.Extraction
import ChatCommand.Proofs.Compiled.Compilation
import Mathlib.Data.List.Dedup
import Mathlib.Data.List.Induction

/-!
# Runs on a cache

A cache answers calls of three kinds: to look an outcome up, to compile a syntax string, and to
extract its arguments from a message. The last two demand an outcome, which is made on the first
demand for a pair of prefix and syntax string and kept from then on. So at any moment the demands
made so far tell all there is to know about the cache: what it keeps, both of its counters, and its
reply to any call.

## Main definitions

- `Cache.Demand`, `Cache.Request`, `Cache.Reply`: calls and what they are answered.
- `Cache.after`: the cache after some calls on an empty one.
- `Cache.due`: the reply that is due after some calls.
- `Cache.Follows`: how a cache goes with the calls made on it.

## Main results

- `Cache.Follows.serve`: one more call.
- `Cache.run_law`: all calls of a run.
-/

namespace ChatCommand

variable {sigil source message : String} {arguments : List Argument} {cache : Cache}

/-- The extraction that the outcome of compiling leads to. -/
def Extraction.ofOutcome (outcome : Except CompileError Compiled) (arguments : List Argument)
    (message : String) : Extraction :=
  match outcome with
  | .ok compiled => compiled.extract arguments message
  | .error error => .notCompiled error

/-- An extraction calls the cache once and goes by its answer. -/
theorem extract_apply [Pattern.Builder] :
    extract sigil arguments source message cache =
      (.ofOutcome (cache.answer sigil arguments source) arguments message,
        (Cache.getOrCompile sigil arguments source cache).2) := by
  unfold extract
  rw [Cache.bind_apply, Cache.fst_getOrCompile]
  cases cache.answer sigil arguments source <;> rfl

namespace Cache

/-! ### Calls -/

/-- A syntax string to compile under a prefix, with the arguments declared for it. -/
structure Demand where
  key : CacheKey
  arguments : List Argument

/-- What compiling yields. -/
def Demand.outcome [Pattern.Builder] (demand : Demand) : Except CompileError Compiled :=
  ChatCommand.compile demand.key.sigil demand.arguments demand.key.source

/-- A call on a cache. -/
inductive Request where
  /-- Looks up what is kept. -/
  | get (key : CacheKey)
  | compile (demand : Demand)
  | extract (demand : Demand) (message : String)

/-- What a call is answered. -/
inductive Reply where
  | kept (outcome? : Option (Except CompileError Compiled))
  | compiled (outcome : Except CompileError Compiled)
  | extracted (extraction : Extraction)

/-- The demand that a call makes. -/
def Request.demand? : Request → Option Demand
  | get _ => none
  | compile demand | extract demand _ => some demand

/-- Answers a call. -/
def serve [Pattern.Builder] : Request → StateM Cache Reply
  | .get key => fun cache => (.kept (cache.get? key), cache)
  | .compile demand => do
    return .compiled (← getOrCompile demand.key.sigil demand.arguments demand.key.source)
  | .extract demand message => do
    return .extracted
      (← ChatCommand.extract demand.key.sigil demand.arguments demand.key.source message)

/-- The cache after some calls on an empty one. -/
def after [Pattern.Builder] (requests : List Request) : Cache :=
  requests.foldl (fun cache request => (serve request cache).2) empty

/-! ### Demands -/

/-- The demands that some calls make, in order. -/
def demands (requests : List Request) : List Demand := requests.filterMap Request.demand?

/-- The first demand for a pair. -/
def firstFor? (requests : List Request) (key : CacheKey) : Option Demand :=
  (demands requests).find? fun demand => demand.key = key

/-- The demand that decides about one that comes after some calls: the first one for the same pair,
which may be the demand itself. -/
def deciding (requests : List Request) (demand : Demand) : Demand :=
  (firstFor? requests demand.key).getD demand

/-- The reply that is due to a call after some others. -/
def due [Pattern.Builder] (requests : List Request) : Request → Reply
  | .get key => .kept ((firstFor? requests key).map Demand.outcome)
  | .compile demand => .compiled (deciding requests demand).outcome
  | .extract demand message =>
    .extracted (.ofOutcome (deciding requests demand).outcome demand.arguments message)

variable {requests later : List Request} {request : Request} {demand : Demand} {key : CacheKey}

theorem firstFor?_eq_none_iff :
    firstFor? requests key = none ↔ key ∉ (demands requests).map Demand.key := by
  simp [firstFor?]

theorem key_of_firstFor? (first : firstFor? requests key = some demand) : demand.key = key := by
  simpa using List.find?_some first

theorem mem_demands_of_firstFor? (first : firstFor? requests key = some demand) :
    demand ∈ demands requests :=
  List.mem_of_find?_eq_some first

theorem demands_append : demands (requests ++ later) = demands requests ++ demands later :=
  List.filterMap_append

theorem demands_concat_of_none (silent : request.demand? = none) :
    demands (requests ++ [request]) = demands requests := by
  simp [demands, silent]

theorem demands_concat (demands? : request.demand? = some demand) :
    demands (requests ++ [request]) = demands requests ++ [demand] := by
  simp [demands, demands?]

/-- Later demands do not change which one was first. -/
theorem firstFor?_append :
    firstFor? (requests ++ later) key = (firstFor? requests key).or (firstFor? later key) := by
  simp [firstFor?, demands_append]

/-- One more demand is the first one for its pair, unless there was one before. -/
theorem firstFor?_concat (demands? : request.demand? = some demand) :
    firstFor? (requests ++ [request]) key =
      if key = demand.key then some (deciding requests demand) else firstFor? requests key := by
  have alone : firstFor? [request] key = if demand.key = key then some demand else none := by
    by_cases same : demand.key = key <;> simp [firstFor?, demands, demands?, same]
  rw [firstFor?_append, alone]
  by_cases same : key = demand.key
  · subst same
    cases first : firstFor? requests demand.key <;> simp [deciding, first]
  · simp [same, Ne.symm same]

theorem get?_eq_none_iff : cache.get? key = none ↔ key ∉ cache.entries.map Prod.fst := by
  simp only [get?, Option.map_eq_none_iff, List.find?_eq_none, List.mem_map, decide_eq_true_eq]
  exact ⟨fun other ⟨entry, member, same⟩ => other entry member same,
    fun absent entry member same => absent ⟨entry, member, same⟩⟩

/-! ### What a call does -/

variable [Pattern.Builder]

/-- A call without a demand leaves the cache alone. -/
theorem snd_serve_of_none (silent : request.demand? = none) (cache : Cache) :
    (serve request cache).2 = cache := by
  cases request with
  | get key => rfl
  | compile demand => contradiction
  | extract demand message => contradiction

theorem serve_compile (demand : Demand) (cache : Cache) :
    serve (.compile demand) cache =
      (.compiled (cache.answer demand.key.sigil demand.arguments demand.key.source),
        (getOrCompile demand.key.sigil demand.arguments demand.key.source cache).2) := by
  rw [← fst_getOrCompile]
  rfl

theorem serve_extract (demand : Demand) (message : String) (cache : Cache) :
    serve (.extract demand message) cache =
      (.extracted (.ofOutcome (cache.answer demand.key.sigil demand.arguments demand.key.source)
        demand.arguments message),
        (getOrCompile demand.key.sigil demand.arguments demand.key.source cache).2) := by
  show (ChatCommand.extract _ _ _ _ >>= _) cache = _
  rw [bind_apply, extract_apply]
  rfl

/-- A call with a demand leaves what making or finding the outcome leaves. -/
theorem snd_serve (demands? : request.demand? = some demand) (cache : Cache) :
    (serve request cache).2 =
      (getOrCompile demand.key.sigil demand.arguments demand.key.source cache).2 := by
  cases request with
  | get key => contradiction
  | compile other =>
    obtain rfl := Option.some.inj demands?
    rw [serve_compile]
  | extract other message =>
    obtain rfl := Option.some.inj demands?
    rw [serve_extract]

/-- How a cache goes with the calls made on it: it keeps the outcomes of the first demands, each
under a key of its own, and counts every demand as found or made. -/
structure Follows (requests : List Request) (cache : Cache) : Prop where
  outcomes : ∀ key, cache.get? key = (firstFor? requests key).map Demand.outcome
  distinct : (cache.entries.map Prod.fst).Nodup
  misses_eq : cache.misses = cache.size
  calls_eq : cache.hits + cache.misses = (demands requests).length

theorem follows_empty : Follows [] empty where
  outcomes := fun _ => rfl
  distinct := .nil
  misses_eq := rfl
  calls_eq := rfl

/-- The answer to a demand is the outcome of the one that decides about it. -/
theorem Follows.answer_eq (follows : Follows requests cache) (demand : Demand) :
    cache.answer demand.key.sigil demand.arguments demand.key.source =
      (deciding requests demand).outcome := by
  unfold answer deciding
  rw [follows.outcomes]
  cases firstFor? requests demand.key <;> rfl

/-- The reply to a call is the one that is due. -/
theorem Follows.reply_eq (follows : Follows requests cache) (request : Request) :
    (serve request cache).1 = due requests request := by
  cases request with
  | get key => exact congrArg Reply.kept (follows.outcomes key)
  | compile demand =>
    rw [serve_compile, follows.answer_eq]
    rfl
  | extract demand message =>
    rw [serve_extract, follows.answer_eq]
    rfl

/-- A demand keeps the cache with the calls, whether its outcome is found or has to be made. -/
theorem Follows.demanded (follows : Follows requests cache)
    (demands? : request.demand? = some demand) :
    Follows (requests ++ [request])
      (getOrCompile demand.key.sigil demand.arguments demand.key.source cache).2 := by
  have calls := follows.calls_eq
  have sized := follows.misses_eq
  have outcomes (key : CacheKey) :
      (getOrCompile demand.key.sigil demand.arguments demand.key.source cache).2.get? key =
        (firstFor? (requests ++ [request]) key).map Demand.outcome := by
    rw [get?_getOrCompile, follows.answer_eq, firstFor?_concat demands?, follows.outcomes]
    split <;> rfl
  cases kept : cache.get? demand.key with
  | some outcome =>
    -- A hit: nothing but its counter moves.
    rw [getOrCompile_of_kept kept] at outcomes ⊢
    refine ⟨outcomes, follows.distinct, sized, ?_⟩
    simp only [demands_concat demands?, List.length_append, List.length_singleton]
    omega
  | none =>
    -- A miss: one entry more, whose key is new.
    rw [getOrCompile_of_new kept] at outcomes ⊢
    refine ⟨outcomes, ?_, ?_, ?_⟩
    · exact List.nodup_cons.mpr ⟨get?_eq_none_iff.mp kept, follows.distinct⟩
    · simpa [size] using sized
    · simp only [demands_concat demands?, List.length_append, List.length_singleton]
      omega

/-- Any call keeps the cache with the calls. -/
theorem Follows.serve (follows : Follows requests cache) (request : Request) :
    Follows (requests ++ [request]) (serve request cache).2 := by
  cases asked : request.demand? with
  | none =>
    rw [snd_serve_of_none asked]
    have same : demands (requests ++ [request]) = demands requests := demands_concat_of_none asked
    refine ⟨?_, follows.distinct, follows.misses_eq, same ▸ follows.calls_eq⟩
    unfold firstFor?
    rw [same]
    exact follows.outcomes
  | some demand =>
    rw [snd_serve asked]
    exact follows.demanded asked

theorem after_append :
    after (requests ++ later) =
      later.foldl (fun cache request => (Cache.serve request cache).2) (after requests) :=
  List.foldl_append

/-- After any calls the cache goes with them. -/
theorem follows_after (requests : List Request) : Follows requests (after requests) := by
  induction requests using List.reverseRecOn with
  | nil => exact follows_empty
  | append_singleton requests request ih =>
    rw [after_append]
    exact ih.serve request

/-- There is one entry for each pair demanded. -/
theorem Follows.size_eq (follows : Follows requests cache) :
    cache.size = ((demands requests).map Demand.key).dedup.length := by
  -- Keys of entries and keys of demands are the same keys, and no entry has another one's key.
  have perm : (cache.entries.map Prod.fst).Perm ((demands requests).map Demand.key).dedup := by
    rw [List.perm_ext_iff_of_nodup follows.distinct (List.nodup_dedup _)]
    intro key
    rw [List.mem_dedup, ← not_iff_not, ← get?_eq_none_iff, ← firstFor?_eq_none_iff,
      follows.outcomes, Option.map_eq_none_iff]
  rw [← perm.length_eq, List.length_map]
  rfl

/-- After any calls, the counters add up to the number of demands, and each pair demanded was missed
once and has an entry. Looking up changes nothing, and finds nothing just for a pair never demanded.
Every call is answered by the outcome for the first demand of its pair. What is kept once is kept
unchanged. -/
theorem run_law (requests : List Request) :
    ((after requests).hits + (after requests).misses = (demands requests).length ∧
      (after requests).misses = (after requests).size ∧
      (after requests).size = ((demands requests).map Demand.key).dedup.length) ∧
    (∀ key, (serve (.get key) (after requests)).2 = after requests ∧
      ((serve (.get key) (after requests)).1 = .kept none ↔
        key ∉ (demands requests).map Demand.key)) ∧
    (∀ request, (serve request (after requests)).1 = due requests request) ∧
    ∀ key outcome, (after requests).get? key = some outcome →
      ∀ later, (after (requests ++ later)).get? key = some outcome := by
  have follows := follows_after requests
  refine ⟨⟨follows.calls_eq, follows.misses_eq, follows.size_eq⟩, fun key => ⟨rfl, ?_⟩,
    follows.reply_eq, ?_⟩
  · rw [follows.reply_eq, ← firstFor?_eq_none_iff]
    simp [due]
  · intro key outcome kept later
    rw [follows.outcomes] at kept
    obtain ⟨first, found, rfl⟩ := Option.map_eq_some_iff.mp kept
    rw [(follows_after _).outcomes, firstFor?_append, found]
    rfl

end Cache

end ChatCommand
