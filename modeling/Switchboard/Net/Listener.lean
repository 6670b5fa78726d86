import Switchboard.Net.Address
import Switchboard.Settings.Config

/-!
# Listeners

Which addresses a service can listen on. An internet address is a host named by number with a
port; networks of one family take addresses of that family only. A local socket is a new name in a
directory.
-/

namespace Switchboard

structure Host where
  /-- Whether an address belongs to the machine. -/
  owns : IpAddress → Bool
  files : FileTree := {}

inductive Listener where
  | internet (ip : IpAddress)
  | localSocket (path : String)
deriving DecidableEq, Repr

namespace Listener

def pathLimit : Nat := 108

def isVacant (host : Host) (path : String) : Bool :=
  let pieces := FileTree.pieces path
  let name := pieces.getLast?.getD ""
  path.utf8ByteSize < pathLimit && !path.toList.contains '\x00' && !(["", ".", ".."].contains name) &&
    (match host.files.walk? (host.files.origin path) pieces.dropLast with
    | some names => host.files.entry? names == some .directory
    | none => false) &&
    (host.files.find? path).isNone

def listen (host : Host) (a : SocketAddress) : Except Error Listener :=
  if host.owns a.ip then .ok (.internet a.ip) else .error (.io "cannot assign requested address")

def bind (host : Host) (n : Network) (address : String) : Except Error Listener :=
  match n with
  | .unix =>
    if isVacant host address then .ok (.localSocket address)
    else .error (.io "cannot make a socket there")
  | _ =>
    match SocketAddress.resolve? address with
    | none => .error (.io "invalid socket address")
    | some a =>
      if n = .tcp ∨ a.ip.isV4 = decide (n = .tcp4) then listen host a
      else .error (.invalidNetwork (n.label ++ " cannot bind " ++ address))

def ip? : Listener → Option IpAddress
  | internet ip => some ip
  | localSocket _ => none

end Listener

end Switchboard
