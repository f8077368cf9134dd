/-
  This file defines why a text is no URL.

  Key definitions include:
    * `UrlError`
    * `UrlError.message`
-/

namespace Signpost

------------------------------------------------------------
-- Errors
------------------------------------------------------------

/- Why a text is no URL. -/
inductive UrlError where
| emptyHost
| idna
| invalidPort
| invalidIpv4
| invalidIpv6
| invalidDomainCharacter
| relative
deriving DecidableEq, Repr

/- The wording of a URL error. -/
def UrlError.message : UrlError → String
| .emptyHost => "empty host"
| .idna => "invalid international domain name"
| .invalidPort => "invalid port number"
| .invalidIpv4 => "invalid IPv4 address"
| .invalidIpv6 => "invalid IPv6 address"
| .invalidDomainCharacter => "invalid domain character"
| .relative => "relative URL without a base"

end Signpost
