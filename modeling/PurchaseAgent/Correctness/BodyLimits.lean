import PurchaseAgent.Api.RequestBodyLimit

/-!
What reaches the application through the limit of the request body. It is the whole
body or nothing, however a client cuts the body into messages.
-/

namespace PurchaseAgent.RequestBodyLimitMiddleware

/-- Messages that all announce another one. -/
def Open (front : List ReceivedMessage) : Prop := ∀ message ∈ front, message.more = true

def bytes (front : List ReceivedMessage) : List UInt8 := front.flatMap (·.chunk)

theorem open_nil : Open [] := fun _ none => absurd none List.not_mem_nil

theorem open_cons {message : ReceivedMessage} {front : List ReceivedMessage} :
    Open (message :: front) ↔ message.more = true ∧ Open front := List.forall_mem_cons

theorem bytes_cons (start : List UInt8) (message : ReceivedMessage)
    (front : List ReceivedMessage) :
    start ++ bytes (message :: front) = start ++ message.chunk ++ bytes front := by
  rw [bytes, List.flatMap_cons, ← List.append_assoc]
  rfl

variable {middleware : RequestBodyLimitMiddleware}

theorem readBody_request (start : List UInt8) (chunk : Option (List UInt8))
    (moreBody : Option Bool) (rest : List ReceivedMessage) :
    middleware.readBody start (.request chunk moreBody :: rest) =
      if middleware.maxBodyBytes < (start ++ chunk.getD []).length then
        .tooLarge middleware.maxBodyBytes
      else if moreBody.getD false then middleware.readBody (start ++ chunk.getD []) rest
      else .forwarded (start ++ chunk.getD []) := rfl

/-- The loop goes on while the messages announce more and fit. -/
theorem readBody_open {front rest : List ReceivedMessage} (opened : Open front)
    (start : List UInt8) (fits : (start ++ bytes front).length ≤ middleware.maxBodyBytes) :
    middleware.readBody start (front ++ rest) =
      middleware.readBody (start ++ bytes front) rest := by
  induction front generalizing start with
  | nil => rw [bytes, List.flatMap_nil, List.append_nil, List.nil_append]
  | cons message others ih =>
      obtain ⟨more, later⟩ := open_cons.mp opened
      cases message with
      | disconnect => cases more
      | request chunk moreBody =>
          rw [bytes_cons] at fits ⊢
          have announced : moreBody.getD false = true := more
          have here : ¬ middleware.maxBodyBytes < (start ++ chunk.getD []).length := by
            rw [List.length_append] at fits
            exact Nat.not_lt.mpr (Nat.le_of_add_right_le fits)
          rw [List.cons_append, readBody_request, if_neg here, if_pos announced]
          exact ih later _ fits

/-- The loop ends at the message with which the body becomes too large. -/
theorem readBody_over {front rest : List ReceivedMessage} {message : ReceivedMessage}
    (opened : Open front) (start : List UInt8) (fits : start.length ≤ middleware.maxBodyBytes)
    (exceeds : middleware.maxBodyBytes < (start ++ bytes (front ++ [message])).length) :
    middleware.readBody start (front ++ message :: rest) = .tooLarge middleware.maxBodyBytes := by
  induction front generalizing start with
  | nil =>
      rw [List.nil_append, bytes_cons, bytes, List.flatMap_nil, List.append_nil] at exceeds
      cases message with
      | disconnect =>
          rw [ReceivedMessage.chunk, List.append_nil] at exceeds
          omega
      | request chunk moreBody =>
          rw [List.nil_append, readBody_request]
          exact if_pos exceeds
  | cons first others ih =>
      obtain ⟨more, later⟩ := open_cons.mp opened
      cases first with
      | disconnect => cases more
      | request chunk moreBody =>
          have announced : moreBody.getD false = true := more
          rw [List.cons_append, bytes_cons] at exceeds
          rw [List.cons_append, readBody_request, if_pos announced]
          split
          · rfl
          · rename_i here
            exact ih later _ (Nat.not_lt.mp here) exceeds

/-- The messages of a whole body: the last one announces no more. -/
def Delivers (messages : List ReceivedMessage) (body : List UInt8) : Prop :=
  ∃ front chunk moreBody rest, messages = front ++ .request chunk moreBody :: rest ∧
    Open front ∧ moreBody.getD false = false ∧ body = bytes (front ++ [.request chunk moreBody])

theorem bytes_snoc (start : List UInt8) (front : List ReceivedMessage)
    (chunk : Option (List UInt8)) (moreBody : Option Bool) :
    start ++ bytes (front ++ [.request chunk moreBody]) =
      start ++ bytes front ++ chunk.getD [] := by
  rw [bytes, List.flatMap_append, List.flatMap_singleton, List.append_assoc]
  rfl

/-- A whole body is read alike however it is cut. -/
theorem readBody_of_delivers {messages : List ReceivedMessage} {body : List UInt8}
    (delivers : Delivers messages body) :
    middleware.readBody [] messages =
      if body.length ≤ middleware.maxBodyBytes then .forwarded body
      else .tooLarge middleware.maxBodyBytes := by
  obtain ⟨front, chunk, moreBody, rest, rfl, opened, last, rfl⟩ := delivers
  have whole := bytes_snoc [] front chunk moreBody
  rw [List.nil_append] at whole
  split
  · rename_i fits
    rw [whole] at fits ⊢
    have before : ([] ++ bytes front).length ≤ middleware.maxBodyBytes := by
      rw [List.length_append] at fits
      exact Nat.le_of_add_right_le fits
    have here : ¬ middleware.maxBodyBytes < ([] ++ bytes front ++ chunk.getD []).length :=
      Nat.not_lt.mpr fits
    rw [readBody_open opened [] before, readBody_request, if_neg here, last]
    rfl
  · rename_i exceeds
    exact readBody_over opened [] (Nat.zero_le _) (Nat.not_le.mp exceeds)

/-- The four ends of the loop, each with the messages that lead to it. -/
theorem readBody_ends (start : List UInt8) (messages : List ReceivedMessage)
    (fits : start.length ≤ middleware.maxBodyBytes) :
    (middleware.readBody start messages = .waiting ∧ Open messages ∧
        (start ++ bytes messages).length ≤ middleware.maxBodyBytes) ∨
      ∃ front message rest, messages = front ++ message :: rest ∧ Open front ∧
        ((middleware.readBody start messages = .disconnected ∧ message = .disconnect ∧
            (start ++ bytes front).length ≤ middleware.maxBodyBytes) ∨
          (middleware.readBody start messages = .tooLarge middleware.maxBodyBytes ∧
            middleware.maxBodyBytes < (start ++ bytes (front ++ [message])).length) ∨
          ∃ chunk moreBody, message = .request chunk moreBody ∧ moreBody.getD false = false ∧
            middleware.readBody start messages =
              .forwarded (start ++ bytes (front ++ [message])) ∧
            (start ++ bytes (front ++ [message])).length ≤ middleware.maxBodyBytes) := by
  induction messages generalizing start with
  | nil =>
      left
      refine ⟨rfl, open_nil, ?_⟩
      rwa [bytes, List.flatMap_nil, List.append_nil]
  | cons message rest ih =>
      cases message with
      | disconnect =>
          right
          refine ⟨[], .disconnect, rest, rfl, open_nil, .inl ⟨rfl, rfl, ?_⟩⟩
          rwa [bytes, List.flatMap_nil, List.append_nil]
      | request chunk moreBody =>
          have one := bytes_snoc start [] chunk moreBody
          have none : start ++ bytes [] = start := by rw [bytes, List.flatMap_nil, List.append_nil]
          rw [none] at one
          rw [readBody_request]
          split_ifs with exceeds announced
          · right
            exact ⟨[], _, rest, rfl, open_nil, .inr (.inl ⟨rfl, one ▸ exceeds⟩)⟩
          · rcases ih _ (Nat.not_lt.mp exceeds) with ⟨waits, opened, total⟩ |
              ⟨front, last, tail, same, opened, ends⟩
            · left
              refine ⟨waits, open_cons.mpr ⟨announced, opened⟩, ?_⟩
              rw [bytes_cons]
              exact total
            · right
              refine ⟨.request chunk moreBody :: front, last, tail, ?_,
                open_cons.mpr ⟨announced, opened⟩, ?_⟩
              · rw [same, List.cons_append]
              · rw [List.cons_append, bytes_cons, bytes_cons]
                exact ends
          · right
            refine ⟨[], _, rest, rfl, open_nil, .inr (.inr ⟨chunk, moreBody, rfl, ?_, ?_, ?_⟩)⟩
            · exact Bool.eq_false_iff.mpr announced
            · rw [one]
            · rw [one]
              exact Nat.not_lt.mp exceeds

/-- The declared length is one that the middleware reads on with. -/
def AcceptsLength (middleware : RequestBodyLimitMiddleware) (scope : Scope) : Prop :=
  scope.contentLength = .ok none ∨ ∃ length : Int, scope.contentLength = .ok (some length) ∧
    0 ≤ length ∧ length ≤ middleware.maxBodyBytes

/-- When a request comes to which end. -/
structure Decides (middleware : RequestBodyLimitMiddleware) (scope : Scope)
    (messages : List ReceivedMessage) : Prop where
  forwarded : ∀ body, middleware.call scope messages = .ok (.forwarded body) ↔
    middleware.AcceptsLength scope ∧ Delivers messages body ∧
      body.length ≤ middleware.maxBodyBytes
  tooLarge : middleware.call scope messages = .ok (.tooLarge middleware.maxBodyBytes) ↔
    (∃ length, scope.contentLength = .ok (some length) ∧ middleware.maxBodyBytes < length) ∨
      middleware.AcceptsLength scope ∧ ∃ front message rest, messages = front ++ message :: rest ∧
        Open front ∧ middleware.maxBodyBytes < (bytes (front ++ [message])).length
  invalid : middleware.call scope messages = .ok .invalidContentLength ↔
    ∃ length, scope.contentLength = .ok (some length) ∧ length < 0
  disconnected : middleware.call scope messages = .ok .disconnected ↔
    middleware.AcceptsLength scope ∧ ∃ front rest, messages = front ++ .disconnect :: rest ∧
      Open front ∧ (bytes front).length ≤ middleware.maxBodyBytes
  waiting : middleware.call scope messages = .ok .waiting ↔
    middleware.AcceptsLength scope ∧ Open messages ∧
      (bytes messages).length ≤ middleware.maxBodyBytes

theorem call_of_accepts {scope : Scope} (http : scope.type = "http")
    (accepts : middleware.AcceptsLength scope) (messages : List ReceivedMessage) :
    middleware.call scope messages = .ok (middleware.readBody [] messages) := by
  rw [call, if_neg (not_not.mpr http)]
  rcases accepts with absent | ⟨length, present, lower, upper⟩
  · simp only [absent, bind, Except.bind]
  · have nonnegative : ¬ length < 0 := by omega
    have small : ¬ (middleware.maxBodyBytes : Int) < length := by omega
    simp only [present, bind, Except.bind, nonnegative, small, if_false]

/-- Without an accepted length the messages are not read. -/
theorem call_of_not_accepts {scope : Scope} (http : scope.type = "http")
    (refused : ¬ middleware.AcceptsLength scope) (messages : List ReceivedMessage) :
    (∃ length, scope.contentLength = .ok (some length) ∧ middleware.maxBodyBytes < length ∧
        middleware.call scope messages = .ok (.tooLarge middleware.maxBodyBytes)) ∨
      (∀ length, scope.contentLength = .ok (some length) → length ≤ middleware.maxBodyBytes) ∧
        ((∃ error, middleware.call scope messages = .error error) ∨
          middleware.call scope messages = .ok .invalidContentLength) := by
  rw [call, if_neg (not_not.mpr http)]
  cases read : scope.contentLength with
  | error error => exact .inr ⟨nofun, .inl ⟨error, rfl⟩⟩
  | ok length =>
      cases length with
      | none => exact absurd (.inl read) refused
      | some length =>
          simp only [bind, Except.bind]
          split_ifs with negative large
          · refine .inr ⟨fun other same => ?_, .inr rfl⟩
            cases same
            omega
          · exact .inl ⟨length, rfl, large, rfl⟩
          · exact absurd (.inr ⟨length, read, by omega, by omega⟩) refused

theorem readBody_ne_invalidContentLength (messages : List ReceivedMessage) :
    middleware.readBody [] messages ≠ .invalidContentLength := by
  intro invalid
  have ends := readBody_ends [] messages (Nat.zero_le middleware.maxBodyBytes)
  rw [invalid] at ends
  rcases ends with ⟨waits, -⟩ | ⟨_, _, _, -, -, ⟨gone, -⟩ | ⟨large, -⟩ | ⟨_, _, -, -, whole, -⟩⟩
  · cases waits
  · cases gone
  · cases large
  · cases whole

/-- The 400 tells that the declared length is none. -/
theorem call_eq_invalidContentLength {scope : Scope} (http : scope.type = "http")
    (messages : List ReceivedMessage) :
    middleware.call scope messages = .ok .invalidContentLength ↔
      ∃ length, scope.contentLength = .ok (some length) ∧ length < 0 := by
  rw [call, if_neg (not_not.mpr http)]
  cases read : scope.contentLength with
  | error error => exact iff_of_false nofun (by simp)
  | ok length =>
      cases length with
      | none =>
          refine iff_of_false (fun called => ?_) (by simp)
          exact readBody_ne_invalidContentLength messages (Except.ok.inj called)
      | some length =>
          simp only [bind, Except.bind, Except.ok.injEq, Option.some.injEq, exists_eq_left']
          split_ifs with negative large
          · exact iff_of_true rfl negative
          · exact iff_of_false nofun negative
          · refine iff_of_false (fun called => ?_) negative
            exact readBody_ne_invalidContentLength messages (Except.ok.inj called)

/-- The outcomes of requests that are read. -/
theorem decides_of_accepts {scope : Scope} (http : scope.type = "http")
    (accepts : middleware.AcceptsLength scope) (messages : List ReceivedMessage) :
    Decides middleware scope messages := by
  have called := call_of_accepts http accepts messages
  have empty : ([] : List UInt8).length ≤ middleware.maxBodyBytes := Nat.zero_le _
  have ends := readBody_ends [] messages empty
  simp only [List.nil_append] at ends
  constructor
  · intro body
    constructor
    · intro forwarded
      have read := Except.ok.inj (called.symm.trans forwarded)
      rw [read] at ends
      rcases ends with ⟨waits, -⟩ | ⟨front, message, rest, same, opened, ended⟩
      · cases waits
      · rcases ended with ⟨gone, -⟩ | ⟨large, -⟩ | ⟨chunk, moreBody, rfl, last, whole, fits⟩
        · cases gone
        · cases large
        · cases whole
          exact ⟨accepts, ⟨front, chunk, moreBody, rest, same, opened, last, rfl⟩, fits⟩
    · intro sent
      rw [called, readBody_of_delivers sent.2.1, if_pos sent.2.2]
  · constructor
    · intro refused
      have read := Except.ok.inj (called.symm.trans refused)
      rw [read] at ends
      rcases ends with ⟨waits, -⟩ | ⟨front, message, rest, same, opened, ended⟩
      · cases waits
      · rcases ended with ⟨gone, -⟩ | ⟨-, large⟩ | ⟨_, _, -, -, whole, -⟩
        · cases gone
        · exact .inr ⟨accepts, front, message, rest, same, opened, large⟩
        · cases whole
    · intro large
      rcases large with ⟨length, declared, large⟩ | ⟨-, front, message, rest, rfl, opened, large⟩
      · rcases accepts with absent | ⟨other, present, -, small⟩
        · cases absent.symm.trans declared
        · cases present.symm.trans declared
          omega
      · rw [called, readBody_over opened [] empty large]
  · exact call_eq_invalidContentLength http messages
  · constructor
    · intro gone
      have read := Except.ok.inj (called.symm.trans gone)
      rw [read] at ends
      rcases ends with ⟨waits, -⟩ | ⟨front, message, rest, same, opened, ended⟩
      · cases waits
      · rcases ended with ⟨-, rfl, fits⟩ | ⟨large, -⟩ | ⟨_, _, -, -, whole, -⟩
        · exact ⟨accepts, front, rest, same, opened, fits⟩
        · cases large
        · cases whole
    · intro left
      obtain ⟨-, front, rest, rfl, opened, fits⟩ := left
      rw [called, readBody_open opened [] fits]
      rfl
  · constructor
    · intro waiting
      have read := Except.ok.inj (called.symm.trans waiting)
      rw [read] at ends
      rcases ends with ⟨-, opened, fits⟩ | ⟨front, message, rest, same, opened, ended⟩
      · exact ⟨accepts, opened, fits⟩
      · rcases ended with ⟨gone, -⟩ | ⟨large, -⟩ | ⟨_, _, -, -, whole, -⟩
        · cases gone
        · cases large
        · cases whole
    · intro left
      obtain ⟨-, opened, fits⟩ := left
      have read := @readBody_open middleware messages [] opened [] fits
      rw [List.append_nil] at read
      rw [called, read]
      rfl

/-- The outcomes of requests that are not read. -/
theorem decides_of_refused {scope : Scope} (http : scope.type = "http")
    (refused : ¬ middleware.AcceptsLength scope) (messages : List ReceivedMessage) :
    Decides middleware scope messages := by
  have ends := call_of_not_accepts http refused messages
  have unread : ∀ {outcome}, outcome ≠ .tooLarge middleware.maxBodyBytes →
      outcome ≠ .invalidContentLength → middleware.call scope messages ≠ .ok outcome := by
    intro outcome notLarge notInvalid called
    rcases ends with ⟨-, -, -, large⟩ | ⟨-, ⟨error, raised⟩ | invalid⟩
    · exact notLarge (Except.ok.inj (called.symm.trans large))
    · cases called.symm.trans raised
    · exact notInvalid (Except.ok.inj (called.symm.trans invalid))
  constructor
  · intro body
    exact ⟨fun called => absurd called (unread nofun nofun), fun sent => absurd sent.1 refused⟩
  · constructor
    · intro called
      left
      rcases ends with ⟨length, declared, large, -⟩ | ⟨-, ⟨error, raised⟩ | invalid⟩
      · exact ⟨length, declared, large⟩
      · cases called.symm.trans raised
      · cases called.symm.trans invalid
    · intro large
      rcases large with ⟨length, declared, large⟩ | ⟨accepts, -⟩
      · rcases ends with ⟨-, -, -, called⟩ | ⟨small, -⟩
        · exact called
        · have := small length declared
          omega
      · exact absurd accepts refused
  · exact call_eq_invalidContentLength http messages
  · exact ⟨fun called => absurd called (unread nofun nofun), fun sent => absurd sent.1 refused⟩
  · exact ⟨fun called => absurd called (unread nofun nofun), fun sent => absurd sent.1 refused⟩

theorem delivers_replay (body : List UInt8) (calls : Nat) :
    Delivers (replayReceive body (calls + 1)) body := by
  refine ⟨[], some body, none, List.replicate calls .disconnect, rfl, open_nil, rfl, ?_⟩
  rw [List.nil_append, bytes, List.flatMap_singleton]
  rfl

/-- When a request reaches the application, is refused, or waits. The application gets
the body that was sent, whole; it depends on nothing but this body, and it can be
read once more, from the replayed messages. -/
theorem request_body_limited (middleware : RequestBodyLimitMiddleware) (scope : Scope)
    (http : scope.type = "http") (messages : List ReceivedMessage) :
    Decides middleware scope messages ∧
      (∀ body, Delivers messages body → ∀ others, Delivers others body →
        middleware.call scope others = middleware.call scope messages) ∧
      ∀ body, middleware.call scope messages = .ok (.forwarded body) → ∀ calls,
        middleware.call scope (replayReceive body (calls + 1)) = .ok (.forwarded body) := by
  have decides : ∀ sent, Decides middleware scope sent := by
    intro sent
    by_cases accepts : middleware.AcceptsLength scope
    · exact decides_of_accepts http accepts sent
    · exact decides_of_refused http accepts sent
  refine ⟨decides messages, ?_, ?_⟩
  · intro body delivers others delivers'
    by_cases accepts : middleware.AcceptsLength scope
    · rw [call_of_accepts http accepts, call_of_accepts http accepts,
        readBody_of_delivers delivers, readBody_of_delivers delivers']
    · -- the messages are not looked at
      rw [call, call]
      cases read : scope.contentLength with
      | error error => rfl
      | ok length =>
          cases length with
          | none => exact absurd (.inl read) accepts
          | some length =>
              simp only [bind, Except.bind]
              split_ifs with other negative large
              · rfl
              · rfl
              · rfl
              · exact absurd (.inr ⟨length, read, by omega, by omega⟩) accepts
  · intro body forwarded calls
    obtain ⟨accepts, -, fits⟩ := ((decides messages).forwarded body).mp forwarded
    exact ((decides _).forwarded body).mpr ⟨accepts, delivers_replay body calls, fits⟩

/-- Two bytes in two messages, and a limit of four. -/
theorem request_body_limited_chunks :
    Decides ⟨4⟩ ⟨"http", none, none, [], none⟩
      [.request (some [1]) (some true), .request (some [2]) none] :=
  (request_body_limited ⟨4⟩ ⟨"http", none, none, [], none⟩ rfl
    [.request (some [1]) (some true), .request (some [2]) none]).1

end PurchaseAgent.RequestBodyLimitMiddleware
