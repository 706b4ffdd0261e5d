/-!
# The error envelope

Every route sends its errors through `apiError`, in the shape OpenAI clients
handle.
-/

namespace InferenceGateway

inductive ErrorType where
  | invalidRequestError
  | authenticationError
  | notFoundError
  | serverError
  deriving DecidableEq, Repr

structure ApiError where
  message : String
  type : ErrorType
  code : Option String
  param : Option String
  deriving DecidableEq, Repr

/-- The class of error a status implies. -/
def typeFor (status : Nat) : ErrorType :=
  if status = 401 ∨ status = 403 then .authenticationError
  else if status = 404 then .notFoundError
  else if status ≥ 500 ∨ status = 503 then .serverError
  else .invalidRequestError

def apiError (status : Nat) (message : String) (code param : Option String) : ApiError :=
  ⟨message, typeFor status, code, param⟩

/-- What the error handler sends for an exception: the message stays in the log. -/
def internalError : ApiError := apiError 500 "internal error" (some "internal_error") none

def jobNotFound : ApiError := apiError 404 "job not found" (some "video_not_found") none

def staleLease : ApiError := apiError 409 "lease is no longer current" (some "stale_lease") none

def invalidFilename : ApiError :=
  apiError 400 "invalid filename" (some "invalid_filename") (some "filename")

end InferenceGateway
