import Mathlib.Data.List.Basic
import Std.Data.String.ToNat

/-!
# Texts that are IP addresses

What an `ipaddress` library accepts as the text of an address: four decimal octets between
dots, or groups of hexadecimal digits between colons. In the second form one run of zero
groups may be left out between two colons, the last two groups may be written as octets,
and a scope may follow behind a percent sign.

> `isIpAddress_eq_false`: a text with no colon and no dot is no address.
-/

namespace Retrywise.Foundation

/-- Decimal, of at most three digits, with no leading zero, at most 255. -/
def isIpv4Octet (octet : List Char) : Bool :=
  octet ≠ [] && octet.all Char.isDigit && decide (octet.length ≤ 3) &&
    (octet = ['0'] || octet.head? ≠ some '0') && decide (Nat.ofDigitChars 10 octet 0 ≤ 255)

def isIpv4Address (text : List Char) : Bool :=
  let octets := text.splitOn '.'
  decide (octets.length = 4) && octets.all isIpv4Octet

/-- Between one and four hexadecimal digits. -/
def isHextet (group : List Char) : Bool :=
  group ≠ [] && decide (group.length ≤ 4) &&
    group.all fun c => c.isDigit || ('a' ≤ c && c ≤ 'f') || ('A' ≤ c && c ≤ 'F')

/-- The groups on one side of a double colon: none, or all there. -/
def isHextetRun (groups : List (List Char)) : Bool :=
  groups = [[]] || groups.all isHextet

/-- How many groups stand on one side of a double colon. -/
def hextetCount (groups : List (List Char)) : Nat :=
  if groups = [[]] then 0 else groups.length

/-- The groups between the colons, where the last may be a dotted quad for two. -/
def hextetsOf (text : List Char) : Option (List (List Char)) :=
  let groups := text.splitOn ':'
  if groups.length < 3 then none
  else
    match groups.getLast? with
    | some last =>
      if last.contains '.' then
        if isIpv4Address last then some (groups.dropLast ++ [['0'], ['0']]) else none
      else some groups
    | none => none

def isIpv6Groups (groups : List (List Char)) : Bool :=
  let inner := groups.tail.dropLast
  decide (groups.length ≤ 9) &&
    match inner.filter (· = []) with
    | [] => decide (groups.length = 8) && groups.all isHextet
    | [_] =>
      let skip := inner.idxOf [] + 1
      let high := groups.take skip
      let low := groups.drop (skip + 1)
      isHextetRun high && isHextetRun low && decide (hextetCount high + hextetCount low ≤ 7)
    -- a second double colon
    | _ => false

def isIpv6Address (text : List Char) : Bool :=
  let address := text.takeWhile (· ≠ '%')
  let scope := text.dropWhile (· ≠ '%')
  !text.contains '/' && (scope = [] || (decide (2 ≤ scope.length) && !scope.tail.contains '%')) &&
    (hextetsOf address).any isIpv6Groups

def isIpAddress (text : String) : Bool :=
  isIpv4Address text.toList || isIpv6Address text.toList

/-! ## Texts that are none -/

theorem hextetsOf_eq_none {text : List Char} (h : ':' ∉ text) : hextetsOf text = none := by
  have hone : text.splitOn ':' = [text] := List.splitOn_eq_singleton h
  simp only [hextetsOf, hone]
  rw [if_pos (by simp)]

/-- **A text with no colon and no dot is no address.** -/
theorem isIpAddress_eq_false {text : String} (hcolon : ':' ∉ text.toList)
    (hdot : '.' ∉ text.toList) : isIpAddress text = false := by
  have hquad : isIpv4Address text.toList = false := by
    have hone : text.toList.splitOn '.' = [text.toList] := List.splitOn_eq_singleton hdot
    simp [isIpv4Address, hone]
  have hgroups : hextetsOf (text.toList.takeWhile (· ≠ '%')) = none := by
    apply hextetsOf_eq_none
    intro hmem
    exact hcolon (List.takeWhile_subset _ hmem)
  rw [isIpAddress, hquad, isIpv6Address, hgroups]
  simp

example : isIpAddress "fe80:1::2" = true := by decide +kernel

end Retrywise.Foundation
