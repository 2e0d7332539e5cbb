import Webservice.File.Handler

/-!
# HEAD and GET

A response to HEAD tells what GET would send.  Only `send_body` looks at the
method: the responses for illegal targets, absent files and errors carry
their text in the answer to HEAD as well.
-/

namespace Webservice

/-- The response to HEAD tells of that to GET everything but the body, and
holds no body itself. -/
structure FileResponse.Heads (head get : FileResponse) : Prop where
  status : head.status = get.status
  contentType : head.contentType = get.contentType
  contentLength : head.contentLength = get.contentLength
  keepAlive : head.keepAlive = get.keepAlive
  body : head.body.size = 0

namespace FileRequestHandler

variable {req : FileRequest}

/-- HEAD agrees with GET on the target of the request. -/
def HeadAgrees (handler : FileRequestHandler) (fileSystem : FileSystem)
    (req : FileRequest) : Prop :=
  (handler.serve fileSystem { req with method := .head }).response.Heads
    (handler.serve fileSystem { req with method := .get }).response

/-- A response with a text is no answer to HEAD. -/
theorem not_heads_stringResponse {status : Nat} {text : List Char}
    {get : FileResponse} (nonempty : text ≠ []) :
    ¬(stringResponse status req text).Heads get := by
  intro heads
  exact nonempty (List.length_eq_zero_iff.mp heads.body)

theorem sendBody_heads (content : List UInt8) (mimeType : List Char) :
    (sendBody { req with method := .head } content mimeType).Heads
      (sendBody { req with method := .get } content mimeType) := by
  constructor <;> simp [sendBody, FileBody.size]

/-- The response to a known method, by what the handler finds out about the
target. -/
theorem response_of_known {handler : FileRequestHandler}
    {fileSystem : FileSystem} {method : HttpVerb}
    (known : method = .head ∨ method = .get) :
    (handler.serve fileSystem { req with method := method }).response =
      if isIllegalRequestTarget req then
        badRequest { req with method := method }
          "Illegal request-target".toList
      else
        match fileSystem (cStr (handler.withPath req.target)) with
        | .noSuchFile => onFileNotFound { req with method := method }
        | .failed message => serverError { req with method := method } message
        | .opened content => sendBody { req with method := method } content
            (mimeType (handler.withPath req.target)) := by
  have isKnown :
      isUnknownHttpMethod { req with method := method } = false := by
    rcases known with rfl | rfl <;> rfl
  rw [serve, isKnown, if_neg Bool.false_ne_true]
  have sameTarget : isIllegalRequestTarget { req with method := method } =
      isIllegalRequestTarget req := rfl
  rw [sameTarget]
  exact apply_ite Served.response _ _ _

/-- What goes wrong, if anything, is the body. -/
theorem response_head_get (handler : FileRequestHandler)
    (fileSystem : FileSystem) (req : FileRequest) :
    let head :=
      (handler.serve fileSystem { req with method := .head }).response
    let get :=
      (handler.serve fileSystem { req with method := .get }).response
    head.status = get.status ∧ head.contentType = get.contentType ∧
      head.contentLength = get.contentLength ∧
      head.keepAlive = get.keepAlive := by
  intro head get
  have isHead : head = _ := response_of_known (.inl rfl)
  have isGet : get = _ := response_of_known (.inr rfl)
  rw [isHead, isGet]
  cases legal : isIllegalRequestTarget req with
  | true =>
      exact ⟨rfl, rfl, rfl, rfl⟩
  | false =>
      simp only [Bool.false_eq_true, if_false]
      cases fileSystem (cStr (handler.withPath req.target)) with
      | noSuchFile => exact ⟨rfl, rfl, rfl, rfl⟩
      | failed message => exact ⟨rfl, rfl, rfl, rfl⟩
      | opened content =>
          have heads := @sendBody_heads req content
            (mimeType (handler.withPath req.target))
          exact ⟨heads.status, heads.contentType, heads.contentLength,
            heads.keepAlive⟩

/-- HEAD agrees with GET just when the target is legal and names a file that
opens. -/
theorem headAgrees_iff (handler : FileRequestHandler)
    (fileSystem : FileSystem) (req : FileRequest) :
    handler.HeadAgrees fileSystem req ↔
      isIllegalRequestTarget req = false ∧
        ∃ content, fileSystem (cStr (handler.withPath req.target)) =
          .opened content := by
  rw [HeadAgrees, response_of_known (.inl rfl), response_of_known (.inr rfl)]
  cases legal : isIllegalRequestTarget req with
  | true =>
      simp only [if_true]
      constructor
      · intro heads
        exact absurd heads (not_heads_stringResponse (by decide))
      · rintro ⟨contradiction, -⟩
        cases contradiction
  | false =>
      simp only [Bool.false_eq_true, if_false]
      cases fileSystem (cStr (handler.withPath req.target)) with
      | noSuchFile =>
          constructor
          · intro heads
            exact absurd heads (not_heads_stringResponse (by simp))
          · rintro ⟨-, content, contradiction⟩
            cases contradiction
      | failed message =>
          constructor
          · intro heads
            exact absurd heads (not_heads_stringResponse (by simp))
          · rintro ⟨-, content, contradiction⟩
            cases contradiction
      | opened content =>
          constructor
          · exact fun _ => ⟨trivial, content, rfl⟩
          · exact fun _ => sendBody_heads content _

/-- The response to HEAD for an absent file carries the text of the 404. -/
theorem head_absent_file :
    ¬FileRequestHandler.HeadAgrees { docRoot := "www".toList }
      (fun _ => .noSuchFile)
      { method := .head
        target := "/absent".toList
        version := 11
        keepAlive := true } := by
  intro agrees
  exact absurd agrees.body (by decide)

end FileRequestHandler

end Webservice
