import Mathlib.Data.Nat.Cast.Order.Ring
import Mathlib.Data.Vector.Basic

/-!
# What the modules share of the system

Time, error numbers, addresses and endpoints, as the sources use them.
-/

namespace L4lb

/-- A point or length of `steady_clock` time, in nanoseconds. -/
abbrev Time := ℤ

namespace Time

/-- `std::chrono::seconds`. -/
def seconds (n : ℤ) : Time := n * 1000000000

/-- `std::chrono::milliseconds`. -/
def milliseconds (n : ℤ) : Time := n * 1000000

end Time

/-- A value of `errno`; `0` is no error. -/
abbrev Errno := ℕ

namespace Errno

abbrev EPERM : Errno := 1
abbrev EINTR : Errno := 4
abbrev EIO : Errno := 5
abbrev ENXIO : Errno := 6
abbrev EBADF : Errno := 9
abbrev EAGAIN : Errno := 11
abbrev EWOULDBLOCK : Errno := EAGAIN
abbrev ENOMEM : Errno := 12
abbrev EACCES : Errno := 13
abbrev EFAULT : Errno := 14
abbrev EBUSY : Errno := 16
abbrev EEXIST : Errno := 17
abbrev ENODEV : Errno := 19
abbrev EINVAL : Errno := 22
abbrev ENFILE : Errno := 23
abbrev EMFILE : Errno := 24
abbrev EPROTO : Errno := 71
abbrev ENOTSOCK : Errno := 88
abbrev EMSGSIZE : Errno := 90
abbrev ENOPROTOOPT : Errno := 92
abbrev EOPNOTSUPP : Errno := 95
abbrev EADDRNOTAVAIL : Errno := 99
abbrev ENETDOWN : Errno := 100
abbrev ENETUNREACH : Errno := 101
abbrev ECONNABORTED : Errno := 103
abbrev ECONNRESET : Errno := 104
abbrev ENOBUFS : Errno := 105
abbrev ETIMEDOUT : Errno := 110
abbrev ECONNREFUSED : Errno := 111
abbrev EHOSTDOWN : Errno := 112
abbrev EHOSTUNREACH : Errno := 113
abbrev EINPROGRESS : Errno := 115
abbrev ENONET : Errno := 64
abbrev ENOENT : Errno := 2

end Errno

/-- A `std::string` or a datagram: a sequence of bytes. -/
abbrev Bytes := List UInt8

/-- The bytes of an Ethernet address. -/
abbrev Mac := Vector UInt8 6

instance neZero_six : NeZero 6 := ⟨by decide⟩

/-- The bytes of an IPv4 address. -/
abbrev Address := Vector UInt8 4

instance neZero_four : NeZero 4 := ⟨by decide⟩

/-- 0.0.0.0. -/
def anyAddress : Address := #v[0, 0, 0, 0]

/-- 255.255.255.255. -/
def broadcastAddress : Address := #v[255, 255, 255, 255]

/-- `Endpoint`. -/
structure Endpoint where
  /-- The address. -/
  address : Address := .replicate 4 0
  /-- The port. -/
  port : UInt16 := 0
  deriving DecidableEq, Repr

end L4lb
