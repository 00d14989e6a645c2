import DuckdbCoda.Model.Client

/-!
# What one request leaves behind

Every `X?` of the client is one `fetch`. A successful one appends exactly one
exchange to the log, for the operation asked and accepted by the server; a
failed one appends at most that exchange.
-/

namespace DuckdbCoda

variable {σ : Type}

/-- The operations sent so far. -/
def World.operations (world : World σ) : List Operation := world.log.map (·.operation)

theorem sentSince_eq {before after : World σ} {sent : List Exchange}
    (h : after.log = before.log ++ sent) : sentSince before after = sent := by
  rw [sentSince, h, List.drop_left]

theorem replyBody_ok {request : Request} {reply : HttpReply} {body : String}
    (h : replyBody request reply = .ok body) :
    reply = .answered request.expectedStatus (.ok body) := by
  cases reply with
  | failed message => simp [replyBody] at h
  | answered status content =>
      by_cases hs : status = request.expectedStatus
      · have hbody : content = .ok body := by simpa [replyBody, hs] using h
        rw [hs, hbody]
      · simp [replyBody, hs] at h

/-- An answer that was read: what was asked, and the body it was read from. -/
theorem fetch_ok {α : Type} {remote : Remote σ} {config : RustExtClientConfig}
    {operation : Operation} {decode : String → Except String α} {world world' : World σ}
    {answer : α} (h : fetch remote config operation decode world = (.ok answer, world')) :
    ∃ exchange body, world'.log = world.log ++ [exchange] ∧
      exchange.operation = operation ∧
      exchange.reply = .answered exchange.request.expectedStatus (.ok body) ∧
      decode body = .ok answer := by
  rcases perform_cases remote config operation world with
    ⟨message, _, hp⟩ | ⟨request, reply, server, _, _, hp⟩
  · simp [fetch, hp, Except.bind] at h
  · simp only [fetch, hp, Prod.mk.injEq] at h
    obtain ⟨hbody, hworld⟩ := h
    cases hreply : replyBody request reply with
    | error message => simp [hreply, Except.bind] at hbody
    | ok body =>
        simp only [hreply, Except.bind] at hbody
        refine ⟨⟨operation, request, reply⟩, body, ?_, rfl, replyBody_ok hreply, hbody⟩
        rw [← hworld]

theorem fetch_ok_operations {α : Type} {remote : Remote σ} {config : RustExtClientConfig}
    {operation : Operation} {decode : String → Except String α} {world world' : World σ}
    {answer : α} (h : fetch remote config operation decode world = (.ok answer, world')) :
    world'.operations = world.operations ++ [operation] := by
  obtain ⟨exchange, body, hlog, hop, _, _⟩ := fetch_ok h
  simp [World.operations, hlog, hop]

/-- A `fetch` that moves the server on has sent its operation. -/
theorem fetch_operations_of_server_ne {α : Type} {remote : Remote σ}
    {config : RustExtClientConfig} {operation : Operation} {decode : String → Except String α}
    {world world' : World σ} {answer : Except String α}
    (h : fetch remote config operation decode world = (answer, world'))
    (hserver : world'.server ≠ world.server) :
    world'.operations = world.operations ++ [operation] := by
  rcases perform_cases remote config operation world with
    ⟨message, _, hp⟩ | ⟨request, reply, server, _, _, hp⟩ <;>
    simp only [fetch, hp, Prod.mk.injEq] at h <;> obtain ⟨_, rfl⟩ := h
  · exact absurd rfl hserver
  · simp [World.operations]

/-- Whatever comes of it, a `fetch` asks for its operation or for nothing. -/
theorem fetch_log {α : Type} (remote : Remote σ) (config : RustExtClientConfig)
    (operation : Operation) (decode : String → Except String α) (world : World σ) :
    ∃ sent, (fetch remote config operation decode world).2.log = world.log ++ sent ∧
      ∀ exchange ∈ sent, exchange.operation = operation := by
  rcases perform_cases remote config operation world with
    ⟨message, _, hp⟩ | ⟨request, reply, server, _, _, hp⟩
  · exact ⟨[], by simp [fetch, hp], by simp⟩
  · exact ⟨[⟨operation, request, reply⟩], by simp [fetch, hp], by simp⟩

end DuckdbCoda
