import Mathlib.Data.Nat.Notation

namespace Overfwd

def MAX_ATTACHMENTS : ℕ := 20

structure AttachmentLimits where
  maxCount : ℕ
  maxTotalBytes : ℕ
  deriving DecidableEq

/-- `with_max_total_bytes`. -/
def AttachmentLimits.withMaxTotalBytes (maxTotalBytes : ℕ) : AttachmentLimits :=
  { maxCount := MAX_ATTACHMENTS, maxTotalBytes := maxTotalBytes }

structure Attachment where
  filename : String
  contentType : String
  contentBase64 : String
  deriving DecidableEq

structure SendRequest where
  «from» : String
  «to» : List String
  cc : List String
  bcc : List String
  subject : String
  text : Option String
  html : Option String
  attachments : List Attachment
  deriving DecidableEq

structure AttachmentDisclosure where
  filename : String
  sizeBytes : ℕ
  deriving DecidableEq

structure SendDisclosure where
  «from» : String
  «to» : List String
  subject : String
  bodyPreview : String
  attachments : List AttachmentDisclosure
  deriving DecidableEq

structure SendResponse where
  sent : Bool
  disclosure : SendDisclosure
  deriving DecidableEq

end Overfwd
