/-! # The home directory of a client

A client finds its data, its configuration and its secrets under its home directory. -/

namespace Nodewright.Home

/-- Where the data is. -/
def data (home : String) : String := home ++ "/kotal-data"

/-- Where the configuration is. -/
def config (home : String) : String := home ++ "/kotal-config"

/-- Where the secrets are. -/
def secrets (home : String) : String := home ++ "/.kotal-secrets"

/-- A file among the secrets. -/
def secret (home file : String) : String := secrets home ++ "/" ++ file

end Nodewright.Home
