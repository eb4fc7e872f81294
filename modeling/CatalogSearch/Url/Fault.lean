/-! # Faulty URLs

Why a text is no URL, and the words for it. -/

namespace CatalogSearch

/-- **Why a text is no URL.** -/
inductive UrlFault where
  /-- There is no scheme. -/
  | relative
  /-- There is no host where one is due. -/
  | emptyHost
  /-- The host is no domain name. -/
  | domainName
  /-- The host of an opaque kind has a forbidden character. -/
  | hostCharacter
  /-- The host ends in a number but is no IPv4 address. -/
  | ipv4
  /-- The host in brackets is no IPv6 address. -/
  | ipv6
  /-- The port is no number of 16 bits. -/
  | port
  deriving DecidableEq, Repr

/-- A fault in words. -/
def UrlFault.message : UrlFault → String
  | .relative => "relative URL without a base"
  | .emptyHost => "empty host"
  | .domainName => "invalid international domain name"
  | .hostCharacter => "invalid domain character"
  | .ipv4 => "invalid IPv4 address"
  | .ipv6 => "invalid IPv6 address"
  | .port => "invalid port number"

end CatalogSearch
