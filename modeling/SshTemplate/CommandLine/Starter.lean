/-!
# `CommandLine.Starter` — the template a new user begins with

Comments only, so that rendering it as it stands gives an empty configuration.
-/

set_option autoImplicit false

namespace SshTemplate
namespace CommandLine

def starterLines : List String := [
  "# sedge configuration",
  "#",
  "# `sedge update` renders this file into ~/.ssh/config. Lines starting with @ are",
  "# sedge directives, everything else is passed through as ssh config.",
  "",
  "# Options before the first Host apply to every host",
  "# ServerAliveInterval 30",
  "",
  "# A bundle of options that hosts can inherit with @is",
  "# @HostAttrs common",
  "#     User me",
  "#     ForwardAgent no",
  "",
  "# A key named by its fingerprint (see `sedge keys list`)",
  "# @key work SHA256:replace-with-your-fingerprint",
  "",
  "# One Host stanza per value: web1, web2, web3",
  "# @with i \x7b1..3\x7d",
  "# Host web<i>",
  "#     @is common",
  "#     @identity work",
  "#     HostName web<i>.example.com",
  "",
  "# Reach a host through a gateway",
  "# Host internal",
  "#     @via gateway.example.com",
  "",
  "# Share definitions with others",
  "# @include https://example.com/shared.sedge"]

def starterText : String := String.join (starterLines.map (· ++ "\n"))

end CommandLine
end SshTemplate
