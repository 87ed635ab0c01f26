namespace HostSnapshot.Text.Utf8

/-- What the bytes read so far still ask for: `more` continuation bytes, the next of which lies
between `low` and `high`, after the bits `bits` of a character of `width` bytes read. -/
inductive State
  | start
  | inside (more : Nat) (low high : Nat) (bits : Nat) (width : Nat)
deriving DecidableEq, Repr

inductive Lead
  | ascii
  | longer (more low high bits : Nat)
  | none
deriving DecidableEq, Repr

/-- Overlong forms, surrogates and values past U+10FFFF are excluded by the second byte. -/
def lead (b : Nat) : Lead :=
  if b < 0x80 then .ascii
  else if b < 0xc2 then .none
  else if b < 0xe0 then .longer 1 0x80 0xbf (b - 0xc0)
  else if b = 0xe0 then .longer 2 0xa0 0xbf 0
  else if b = 0xed then .longer 2 0x80 0x9f (b - 0xe0)
  else if b < 0xf0 then .longer 2 0x80 0xbf (b - 0xe0)
  else if b = 0xf0 then .longer 3 0x90 0xbf 0
  else if b < 0xf4 then .longer 3 0x80 0xbf (b - 0xf0)
  else if b = 0xf4 then .longer 3 0x80 0x8f (b - 0xf0)
  else .none

inductive Event
  | char (c : Char)
  | badStart
  | badContinuation (width : Nat)
deriving DecidableEq, Repr

def begin (b : UInt8) : List Event × State :=
  match lead b.toNat with
  | .ascii => ([.char (Char.ofNat b.toNat)], .start)
  | .longer more low high bits => ([], .inside more low high bits 1)
  | .none => ([.badStart], .start)

/-- One byte. A byte that does not continue a character begins another. -/
def feed : State → UInt8 → List Event × State
  | .start, b => begin b
  | .inside more low high bits width, b =>
    if low ≤ b.toNat ∧ b.toNat ≤ high then
      let bits := bits * 64 + (b.toNat - 0x80)
      if more ≤ 1 then ([.char (Char.ofNat bits)], .start)
      else ([], .inside (more - 1) 0x80 0xbf bits (width + 1))
    else
      let (events, state) := begin b
      (.badContinuation width :: events, state)

def Event.replaced : Event → Char
  | .char c => c
  | _ => '\uFFFD'

def replaceFrom : State → List UInt8 → List Char
  | .start, [] => []
  | .inside .., [] => ['\uFFFD']
  | s, b :: bs => (feed s b).1.map Event.replaced ++ replaceFrom (feed s b).2 bs

/-- Reads bytes as text, with U+FFFD where they are not UTF-8. -/
def replace (bs : List UInt8) : List Char := replaceFrom .start bs

inductive Reason
  | start
  | continuation
  | unfinished
deriving DecidableEq, Repr

def Reason.message : Reason → String
  | .start => "invalid start byte"
  | .continuation => "invalid continuation byte"
  | .unfinished => "unexpected end of data"

/-- The first place where bytes are not UTF-8: the byte there, its position, how many bytes belong
to it, and what is wrong. -/
structure Undecodable where
  byte : UInt8
  position : Nat
  width : Nat
  reason : Reason
deriving DecidableEq, Repr

/-- Strict reading from a state; `first` is the byte at which the present character begins and
`position` the number of bytes read. -/
def strictFrom : State → (first : UInt8) → (position : Nat) → List UInt8 →
    Except Undecodable (List Char)
  | .start, _, _, [] => .ok []
  | .inside _ _ _ _ width, first, position, [] =>
    .error ⟨first, position - width, width, .unfinished⟩
  | s, first, position, b :: bs =>
    let first := match s with
      | .start => b
      | .inside .. => first
    match feed s b with
    | ([], next) => strictFrom next first (position + 1) bs
    | (.char c :: _, next) => (strictFrom next first (position + 1) bs).map (c :: ·)
    | (.badStart :: _, _) => .error ⟨b, position, 1, .start⟩
    | (.badContinuation width :: _, _) =>
      .error ⟨first, position - width, width, .continuation⟩

def strict (bs : List UInt8) : Except Undecodable (List Char) := strictFrom .start 0 0 bs

def encodeChar (c : Char) : List UInt8 :=
  let n := c.toNat
  let tail (k : Nat) : UInt8 := UInt8.ofNat (0x80 + n / Nat.pow 64 k % 64)
  if n < 0x80 then [UInt8.ofNat n]
  else if n < 0x800 then [UInt8.ofNat (0xc0 + n / 64), tail 0]
  else if n < 0x10000 then [UInt8.ofNat (0xe0 + n / 4096), tail 1, tail 0]
  else [UInt8.ofNat (0xf0 + n / 262144), tail 2, tail 1, tail 0]

def encode (s : List Char) : List UInt8 := s.flatMap encodeChar

def size (s : List Char) : Nat := (encode s).length

end HostSnapshot.Text.Utf8
