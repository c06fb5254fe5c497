import Vouch.Signature.Status

/-!
The numbers an OpenPGP engine reports and what they mean: error codes, signature summaries, and the
identifiers of algorithms and signing modes.

An error value may carry its source in the upper half; only the lower sixteen bits are the code.
-/

namespace Vouch.Engine

open Signature (Status)

def codeOf (value : UInt32) : UInt32 :=
  value &&& 0xFFFF

def isSuccess (value : UInt32) : Bool :=
  codeOf value == 0

def generalCode : UInt32 := 1

def unusableKeyCode : UInt32 := 53

def descriptions : List (UInt32 × String) :=
  [(0, "success"), (1, "general error"), (8, "bad signature"), (9, "no public key"),
    (17, "no secret key"), (53, "unusable public key"), (54, "unusable secret key"),
    (94, "certificate revoked"), (95, "no CRL known"), (96, "CRL too old"), (153, "key expired"),
    (154, "signature expired")]

def describe (value : UInt32) : String :=
  (descriptions.lookup (codeOf value)).getD "unknown error"

def codeFindings : List (UInt32 × Status) :=
  [(8, .bad), (94, .keyRevoked), (153, .keyExpired), (154, .expired), (9, .missingKey),
    (95, .missingCrl), (96, .missingCrl)]

def codeFinding (value : UInt32) : List Status :=
  if isSuccess value then []
  else [(codeFindings.lookup (codeOf value)).getD .generalError]

/-- Summary bits that classify a signature.  The bits for a bad policy and a conflict of policies
are findings about trust and not listed. -/
def summaryFindings : List (UInt32 × Status) :=
  [(0x0004, .bad), (0x0010, .keyRevoked), (0x0020, .keyExpired), (0x0040, .expired),
    (0x0080, .missingKey), (0x0300, .missingCrl), (0x0800, .generalError)]

def summaryFinding (summary : UInt32) : List Status :=
  (summaryFindings.filter (fun finding => summary &&& finding.1 != 0)).map (·.2)

def statusOf (value summary : UInt32) : Status :=
  Status.worst (codeFinding value ++ summaryFinding summary)

def keyAlgorithms : List (UInt32 × String) :=
  [(1, "RSA"), (2, "RSA-E"), (3, "RSA-S"), (16, "ELG-E"), (17, "DSA"), (18, "ECDH"), (19, "ECDSA"),
    (20, "ELG"), (22, "EdDSA")]

def keyAlgorithm (id : UInt32) : String :=
  (keyAlgorithms.lookup id).getD "Unknown"

def hashAlgorithms : List (UInt32 × String) :=
  [(1, "MD5"), (2, "SHA1"), (3, "RIPEMD160"), (8, "SHA256"), (9, "SHA384"), (10, "SHA512"),
    (11, "SHA224")]

def hashAlgorithm (id : UInt32) : String :=
  (hashAlgorithms.lookup id).getD "Unknown"

inductive SignMode where
  | normal
  | clear
  | detach
  deriving DecidableEq, Repr

namespace SignMode

def all : List SignMode := [.normal, .clear, .detach]

def name : SignMode → String
  | .normal => "normal"
  | .clear => "clear"
  | .detach => "detach"

def label : SignMode → String
  | .normal => "Normal"
  | .clear => "Clear"
  | .detach => "Detach"

def ofName? (name : String) : Option SignMode :=
  all.find? (fun mode => mode.name == name)

def ofCode (code : UInt32) : SignMode :=
  if code = 1 then .detach else if code = 2 then .clear else .normal

def shape : Json.Shape := .choice (all.map name)

end SignMode

end Vouch.Engine
