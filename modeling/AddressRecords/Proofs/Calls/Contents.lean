import AddressRecords.Proofs.Address.Text
import AddressRecords.Proofs.Atomicity.Failing
import AddressRecords.Proofs.Calls.Query
import AddressRecords.Proofs.Json.Written

/-!
What is written for a domain and a family is what a list of them asks for and reads. The name and
the type go through two encodings, a body and a query, and come out of both as they went in; the
address comes back out of its text, and only for its own family.
-/

namespace AddressRecords

open Api (Call Client NewRecord RecordPatch Reply)

variable {σ : Type}

/-! Bodies. -/

theorem Api.NewRecord.isObject_toJson (record : NewRecord) :
    Json.IsObject (toString record.toJson)
      [("name", .string record.name), ("type", .string record.recordType),
        ("content", .string record.content), ("ttl", .ofNat record.ttl.seconds.toNat),
        ("proxied", .boolean record.proxied)] := by
  have small : record.ttl.seconds.toNat < Json.Scan.wordLimit :=
    Nat.lt_trans record.ttl.seconds.toNat_lt (by decide)
  apply Json.isObject_toString
  · simp [Json.haveExact, Json.Value.isExact, Json.Value.ofNat, Json.Number.isExact,
      Json.Scan.fitsInteger, small]
  · simp [Json.Value.isScalar, Json.Value.ofNat]
  · simp

theorem Api.RecordPatch.isObject_toJson (patch : RecordPatch) :
    Json.IsObject (toString patch.toJson)
      [("name", .string patch.name), ("type", .string patch.recordType),
        ("content", .string patch.content)] := by
  apply Json.isObject_toString
  · simp [Json.haveExact, Json.Value.isExact]
  · simp [Json.Value.isScalar]
  · simp

theorem Api.Client.body_of_request {client : Client} {call : Call} {request : Api.Request}
    (written : client.request call = .ok request) :
    request.method = call.method ∧ request.body = call.body := by
  unfold Client.request at written
  split at written
  · cases written
  · dsimp only at written
    repeat' split at written
    all_goals cases written
    exact ⟨rfl, rfl⟩

namespace Handle

variable {handle : Handle σ} {operation : Operation} {state : HandleState σ}

/-! Which command a call is. -/

/-- A call looks for a zone, or it is part of the operation's work in one. -/
theorem exists_command_of_mem_calls {call : Call}
    (mem : call ∈ (handle.perform operation state).calls) :
    ∃ command : Command, call = command.call handle.client ∧
      ((∃ name page, command = .zones name page) ∨
        ∃ zone work, operation.Work zone work ∧ command ∈ work) := by
  by_cases idle : operation.IsIdle state.1
  · rw [handle.isQuiet_of_isIdle idle] at mem
    cases mem
  · obtain ⟨domain, asked, work, -, asks, calls, works, unresolved⟩ := handle.exists_calls idle
    rw [calls] at mem
    obtain ⟨command, among, rfl⟩ := List.mem_map.mp mem
    refine ⟨command, rfl, ?_⟩
    rcases List.mem_append.mp among with before | inside
    · obtain ⟨name, -, page, rfl⟩ := asks.exists_zones command before
      exact .inl ⟨name, page, rfl⟩
    · cases found : (handle.resolve domain state).value with
      | error failure =>
        rw [unresolved failure found] at inside
        cases inside
      | ok zone => exact .inr ⟨zone, work, works zone found, inside⟩

/-- In a zone that is found, the work is done. -/
theorem exists_work_of_resolve {domain : Domain} {zone : String}
    (busy : ¬ operation.IsIdle state.1) (located : operation.domain? = some domain)
    (found : (handle.resolve domain state).value = .ok zone) :
    ∃ work, operation.Work zone work ∧ ∀ command ∈ work,
      command.call handle.client ∈ (handle.perform operation state).calls := by
  obtain ⟨other, asked, work, also, -, calls, works, -⟩ := handle.exists_calls busy
  obtain rfl : domain = other := Option.some.inj (located.symm.trans also)
  refine ⟨work, works zone found, ?_⟩
  intro command mem
  rw [calls]
  exact List.mem_map_of_mem (List.mem_append_right asked mem)

/-! What is written. -/

/-- All that the operation sends by this method is an object with these members. -/
structure Writes (handle : Handle σ) (operation : Operation) (state : HandleState σ)
    (method : Api.Method) (path : String → String) (members : List (String × Json.Value)) :
    Prop where
  body : ∀ request ∈ handle.client.requests (handle.perform operation state).calls,
    request.method = method → ∃ text, request.body = some text ∧ Json.IsObject text members
  /-- In a zone that is found, it is sent to its path there. -/
  made : ∀ domain zone, operation.domain? = some domain →
    (handle.resolve domain state).value = .ok zone →
    ∃ call ∈ (handle.perform operation state).calls,
      call.method = method ∧ call.path = path zone

/-- What is sent by a method other than that of looking is part of the work. -/
theorem exists_work_of_mem_requests {request : Api.Request}
    (mem : request ∈ handle.client.requests (handle.perform operation state).calls)
    (changes : request.method ≠ .get) :
    ∃ zone work command, operation.Work zone work ∧ command ∈ work ∧
      request.body = (command.call handle.client).body := by
  obtain ⟨call, among, written⟩ := Client.exists_call_of_mem_requests mem
  obtain ⟨method, body⟩ := Client.body_of_request written
  obtain ⟨command, rfl, looks | ⟨zone, work, works, inside⟩⟩ := exists_command_of_mem_calls among
  · obtain ⟨name, page, rfl⟩ := looks
    exact absurd method changes
  · exact ⟨zone, work, command, works, inside, body⟩

/-- An operation whose work is one such command sends what the command holds. -/
theorem writes_of_work {method : Api.Method} {path : String → String}
    {members : List (String × Json.Value)}
    (busy : ¬ operation.IsIdle state.1) (changes : method ≠ .get)
    (holds : ∀ zone work, operation.Work zone work → ∃ command : Command, work = [command] ∧
      (command.call handle.client).method = method ∧
      (command.call handle.client).path = path zone ∧
      ∃ text, (command.call handle.client).body = some text ∧ Json.IsObject text members) :
    handle.Writes operation state method path members := by
  constructor
  case body =>
    intro request mem sent
    have other : request.method ≠ .get := sent.symm ▸ changes
    obtain ⟨zone, work, command, works, inside, body⟩ := exists_work_of_mem_requests mem other
    obtain ⟨only, rfl, -, -, text, written, object⟩ := holds zone work works
    rw [List.mem_singleton.mp inside, written] at body
    exact ⟨text, body, object⟩
  case made =>
    intro domain zone located found
    obtain ⟨work, works, calls⟩ := exists_work_of_resolve busy located found
    obtain ⟨only, rfl, sent, there, -⟩ := holds zone work works
    exact ⟨_, calls only (List.mem_singleton_self only), sent, there⟩

section

variable {key : RecordKey} {address : Address} (own : key.family.owns address)

include own

theorem writes_create (ttl : Ttl) (proxied : Bool) (state : HandleState σ) :
    handle.Writes (.create key address ttl proxied) state .post Client.recordsPath
      [("name", .string key.domain.wireName), ("type", .string key.family.recordType),
        ("content", .string (toString address)), ("ttl", .ofNat ttl.seconds.toNat),
        ("proxied", .boolean proxied)] := by
  have busy : ¬ (Operation.create key address ttl proxied).IsIdle state.1 := not_not_intro own
  apply writes_of_work busy (by decide)
  intro zone work works
  cases works
  exact ⟨_, rfl, rfl, rfl, _, rfl, NewRecord.isObject_toJson _⟩

theorem writes_update (id : String) (state : HandleState σ) :
    handle.Writes (.update key id address) state .patch (Client.recordPath · id)
      [("name", .string key.domain.wireName), ("type", .string key.family.recordType),
        ("content", .string (toString address))] := by
  have busy : ¬ (Operation.update key id address).IsIdle state.1 := not_not_intro own
  apply writes_of_work busy (by decide)
  intro zone work works
  cases works
  exact ⟨_, rfl, rfl, rfl, _, rfl, RecordPatch.isObject_toJson _⟩

end

/-! What is asked for. -/

/-- All that a list of the key asks of a zone is a page of the records with its name and type. -/
structure AsksFor (handle : Handle σ) (key : RecordKey) (zone : String) (state : HandleState σ) :
    Prop where
  query : ∀ call ∈ (handle.perform (.list key) state).calls, call.path = Client.recordsPath zone →
    ∀ request, handle.client.request call = .ok request → ∃ page : UInt32,
      request.pairs = [("name", key.domain.wireName), ("page", toString page),
        ("type", key.family.recordType)]
  /-- A page is asked for where nothing is remembered and the zone is found. -/
  made : state.1.get key = none → (handle.resolve key.domain state).value = .ok zone →
    ∃ call ∈ (handle.perform (.list key) state).calls, call.path = Client.recordsPath zone

theorem asksFor_list {zone : String} (plain : zone.toList.all Char.isAlphanum)
    (unasked : '?' ∉ handle.client.baseUrl.toList) (key : RecordKey) (state : HandleState σ) :
    handle.AsksFor key zone state := by
  constructor
  case query =>
    intro call mem located request written
    have quiet : '?' ∉ call.path.toList := by
      have other : '?' ∉ zone.toList := by
        intro sign
        exact absurd (List.all_eq_true.mp plain '?' sign) (by decide)
      rw [located]
      simp [Client.recordsPath, toString, other]
    rw [Client.pairs_of_request written unasked quiet]
    obtain ⟨command, rfl, looks | ⟨place, work, works, inside⟩⟩ := exists_command_of_mem_calls mem
    · obtain ⟨name, page, rfl⟩ := looks
      have lengths := congrArg String.length located
      have short : "/zones".length < "/zones/".length := by decide
      simp only [Command.call, Client.recordsPath, toString, String.length_append] at lengths
      omega
    · cases works
      obtain ⟨page, rfl⟩ := Command.exists_page_of_mem_pages inside
      exact ⟨page, rfl⟩
  case made =>
    intro cold found
    have busy : ¬ (Operation.list key).IsIdle state.1 := by
      simp [Operation.IsIdle, RecordStore.isWarm, cold]
    obtain ⟨work, works, calls⟩ := exists_work_of_resolve busy rfl found
    cases works with
    | @list _ _ count some_pages bounded =>
      have first : (Command.records zone key.domain.wireName key.family.recordType
          (UInt32.ofNat 1)) ∈ Command.pages
            (.records zone key.domain.wireName key.family.recordType) count := by
        apply List.mem_map_of_mem
        exact List.mem_range'_1.mpr ⟨Nat.le_refl 1, by omega⟩
      exact ⟨_, calls _ first, rfl⟩

/-! Both. -/

/-- What is written of a key and an address, what a list of the key asks for, and what is read. -/
structure Echoes (handle : Handle σ) (key : RecordKey) (address : Address) : Prop where
  created : ∀ (ttl : Ttl) (proxied : Bool) (state : HandleState σ),
    handle.Writes (.create key address ttl proxied) state .post Client.recordsPath
      [("name", .string key.domain.wireName), ("type", .string key.family.recordType),
        ("content", .string (toString address)), ("ttl", .ofNat ttl.seconds.toNat),
        ("proxied", .boolean proxied)]
  updated : ∀ (id : String) (state : HandleState σ),
    handle.Writes (.update key id address) state .patch (Client.recordPath · id)
      [("name", .string key.domain.wireName), ("type", .string key.family.recordType),
        ("content", .string (toString address))]
  /-- The same name and type, at a base URL without a query. -/
  listed : '?' ∉ handle.client.baseUrl.toList → ∀ (zone : String) (state : HandleState σ),
    zone.toList.all Char.isAlphanum → handle.AsksFor key zone state
  parsed : key.family.parseAddress (toString address) = .ok address
  refused : ∀ other, other ≠ key.family →
    other.parseAddress (toString address) = .error (.notOf other)
  /-- A listed record with the content that was written has the address. -/
  read : ∀ id, readRecords key.family [⟨id, toString address⟩] = .ok [(id, address)]

/-- A record that is written for a key is one that a list of the key asks for and reads back. -/
theorem echoes (handle : Handle σ) {key : RecordKey} {address : Address}
    (own : key.family.owns address) : handle.Echoes key address := by
  have parsed := Family.parseAddress_toString own
  constructor
  case created => exact writes_create own
  case updated => exact writes_update own
  case listed => exact fun unasked zone state plain => asksFor_list plain unasked key state
  case parsed => exact parsed
  case refused =>
    intro other different
    apply Family.parseAddress_of_not_owns
    intro owned
    have same : address.family = key.family := beq_iff_eq.mp own
    exact different ((beq_iff_eq.mp owned).symm.trans same)
  case read =>
    intro id
    rw [readRecords, parsed]
    rfl

end Handle

/-! An IPv4 address in IPv6 form, for all children of a name. -/

namespace Rehearsed

def children : RecordKey := ⟨.wildcard key.domain.name, .v6⟩

def mapped : Address := .v6 ⟨[0, 0, 0, 0, 0, 0xffff, 0xc000, 0x0201], rfl⟩

def creation : Operation := .create children mapped ⟨300⟩ true

def confirmations : List Reply :=
  [.succeeding "[\x7b\"id\":\"z\",\"status\":\"active\"\x7d]",
    .succeeding "\x7b\"id\":\"r\",\"content\":\"::ffff:192.0.2.1\"\x7d"]

theorem echoes_mapped :
    let created := handle.perform creation (.initial confirmations)
    created.value.toOption = some (.id "r") ∧
      created.calls.map (·.body) = [none,
        some ("\x7b\"name\":\"*.home.example\",\"type\":\"AAAA\"," ++
          "\"content\":\"::ffff:192.0.2.1\",\"ttl\":300,\"proxied\":true\x7d")] ∧
      children.family.owns mapped ∧ '?' ∉ handle.client.baseUrl.toList ∧
      handle.Echoes children mapped := by
  have run : let created := handle.perform creation (.initial confirmations)
      created.value.toOption = some (.id "r") ∧
        created.calls.map (·.body) = [none,
          some ("\x7b\"name\":\"*.home.example\",\"type\":\"AAAA\"," ++
            "\"content\":\"::ffff:192.0.2.1\",\"ttl\":300,\"proxied\":true\x7d")] := by
    decide +kernel
  have own : children.family.owns mapped := by decide
  exact ⟨run.1, run.2, own, by decide, handle.echoes own⟩

end Rehearsed

end AddressRecords
