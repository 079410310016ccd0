import RdGateway.Wirekit.Codec

/-!
# Lossy UTF-8

Decoding with one replacement character for each maximal part of a sequence that
could have started a valid one.
-/

set_option autoImplicit false

namespace Wirekit

def isUtf8Continuation (byte : UInt8) : Bool :=
  0x80 ≤ byte.toNat ∧ byte.toNat ≤ 0xBF

/-- The second bytes that may follow a first byte; the narrower ranges exclude
overlong forms, surrogates and values past U+10FFFF. -/
def isUtf8Second (first second : UInt8) : Bool :=
  if first.toNat < 0xC2 ∨ 0xF4 < first.toNat then false
  else if first.toNat = 0xE0 then 0xA0 ≤ second.toNat ∧ second.toNat ≤ 0xBF
  else if first.toNat = 0xED then 0x80 ≤ second.toNat ∧ second.toNat ≤ 0x9F
  else if first.toNat = 0xF0 then 0x90 ≤ second.toNat ∧ second.toNat ≤ 0xBF
  else if first.toNat = 0xF4 then 0x80 ≤ second.toNat ∧ second.toNat ≤ 0x8F
  else isUtf8Continuation second

def decodeUtf8Lossy : Bytes → List Char
  | [] => []
  | first :: rest =>
      if first.toNat < 0x80 then Char.ofNat first.toNat :: decodeUtf8Lossy rest
      else
        match rest with
        | [] => ['\uFFFD']
        | second :: rest =>
            if ¬ isUtf8Second first second then '\uFFFD' :: decodeUtf8Lossy (second :: rest)
            else if first.toNat < 0xE0 then
              Char.ofNat ((first.toNat - 0xC0) * 0x40 + (second.toNat - 0x80)) :: decodeUtf8Lossy rest
            else
              match rest with
              | [] => ['\uFFFD']
              | third :: rest =>
                  if ¬ isUtf8Continuation third then '\uFFFD' :: decodeUtf8Lossy (third :: rest)
                  else if first.toNat < 0xF0 then
                    Char.ofNat ((first.toNat - 0xE0) * 0x1000 + (second.toNat - 0x80) * 0x40 +
                      (third.toNat - 0x80)) :: decodeUtf8Lossy rest
                  else
                    match rest with
                    | [] => ['\uFFFD']
                    | fourth :: rest =>
                        if ¬ isUtf8Continuation fourth then
                          '\uFFFD' :: decodeUtf8Lossy (fourth :: rest)
                        else
                          Char.ofNat ((first.toNat - 0xF0) * 0x40000 + (second.toNat - 0x80) * 0x1000 +
                            (third.toNat - 0x80) * 0x40 + (fourth.toNat - 0x80)) ::
                            decodeUtf8Lossy rest

example : decodeUtf8Lossy [0x61, 0xE2, 0x82, 0xAC, 0xE2, 0x82, 0x62] = ['a', '€', '\uFFFD', 'b'] := by
  decide

end Wirekit
