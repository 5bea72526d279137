import Caddyfile.Sorted

/-!
# Which names are valid where

Fixed tables, each in ascending order, so that a name is found by bisection and completions come out
sorted.
-/

namespace Caddyfile

namespace Vocabulary

def siteDirectives : Array String := #[
  "abort", "acme_server", "basicauth", "bind", "encode", "error", "file_server", "forward_auth",
  "handle", "handle_errors", "handle_path", "header", "import", "intercept", "invoke",
  "local_certs", "log", "log_append", "log_name", "log_skip", "map", "method", "metrics",
  "php_fastcgi", "push", "redir", "request_body", "request_header", "respond", "reverse_proxy",
  "rewrite", "root", "route", "templates", "tls", "tracing", "try_files", "uri", "vars"]

def globalOptions : Array String := #[
  "acme_ca", "acme_ca_root", "acme_dns", "acme_eab", "admin", "auto_https", "cert_issuer",
  "debug", "default_bind", "email", "grace_period", "http_port", "https_port", "import",
  "key_type", "local_certs", "log", "metrics", "ocsp_interval", "ocsp_stapling", "on_demand_tls",
  "order", "persist_config", "pki", "preferred_chains", "servers", "shutdown_delay",
  "skip_install_trust", "storage", "tracing"]

/-- The site directives whose blocks hold site directives again. -/
def containers : Array String := #["handle", "handle_errors", "handle_path", "route"]

inductive Body where
  | unmodeled
  /-- It has a form of its own that is not checked. -/
  | freeform
  | names (allowed : Array String)
deriving DecidableEq, Repr

def bodies : Array (String × Body) := #[
  ("acme_server", .names #["ca", "challenges", "lifetime", "resolvers"]),
  ("basicauth", .freeform),
  ("encode", .names #["br", "gzip", "match", "minimum_length", "zstd"]),
  ("file_server", .names #[
    "browse", "disable_canonical_uris", "fs", "hide", "index", "pass_thru", "precompressed",
    "root", "status"]),
  ("forward_auth", .names #[
    "copy_headers", "header_down", "header_up", "trust_forward_header", "uri"]),
  ("header", .freeform),
  ("log", .names #[
    "exclude", "format", "hostnames", "include", "level", "output", "sampling"]),
  ("map", .freeform),
  ("php_fastcgi", .names #[
    "capture_stderr", "dial_timeout", "env", "index", "read_timeout", "resolve_root_symlink",
    "root", "split", "try_files", "write_timeout"]),
  ("request_body", .names #["max_size"]),
  ("request_header", .freeform),
  ("reverse_proxy", .names #[
    "buffer_requests", "buffer_responses", "copy_response", "copy_response_headers", "dynamic",
    "fail_duration", "flush_interval", "handle_response", "header_down", "header_up",
    "health_body", "health_fails", "health_headers", "health_interval", "health_passes",
    "health_port", "health_request_body", "health_status", "health_timeout", "health_uri",
    "lb_policy", "lb_retries", "lb_retry_match", "lb_try_duration", "lb_try_interval",
    "max_buffer_size", "max_fails", "replace_status", "request_buffers", "response_buffers",
    "stream_close_delay", "stream_timeout", "to", "transport", "trusted_proxies",
    "unhealthy_latency", "unhealthy_request_count", "unhealthy_status"]),
  ("templates", .names #["delimiters", "extensions", "mime_type", "root"]),
  ("tls", .names #[
    "alpn", "ca", "ca_root", "ciphers", "client_auth", "curves", "dns",
    "dns_challenge_override_domain", "eab", "get_certificate", "insecure_secrets_log", "issuer",
    "key_type", "load", "on_demand", "propagation_delay", "propagation_timeout", "protocols",
    "resolvers", "reuse_private_keys"]),
  ("tracing", .names #["span"])]

/-- A subdirective and its first argument. They are ordered by the subdirective first. -/
structure Head where
  name : String
  arg : String
deriving DecidableEq, Repr

instance : LT Head := ⟨fun a b => a.name < b.name ∨ a.name = b.name ∧ a.arg < b.arg⟩

instance : DecidableLT Head := fun a b =>
  inferInstanceAs (Decidable (a.name < b.name ∨ a.name = b.name ∧ a.arg < b.arg))

def nestedBodies : Array (Head × Array String) := #[
  (⟨"transport", "fastcgi"⟩, #[
    "capture_stderr", "dial_timeout", "env", "read_timeout", "resolve_root_symlink", "root",
    "split", "write_timeout"]),
  (⟨"transport", "http"⟩, #[
    "compression", "dial_fallback_delay", "dial_timeout", "expect_continue_timeout",
    "keepalive", "keepalive_idle_conns", "keepalive_idle_conns_per_host", "keepalive_interval",
    "max_conns_per_host", "max_response_header", "network_proxy", "proxy_protocol",
    "read_buffer", "read_timeout", "resolvers", "response_header_timeout", "tls",
    "tls_client_auth", "tls_curves", "tls_except_ports", "tls_insecure_skip_verify",
    "tls_renegotiation", "tls_server_name", "tls_timeout", "tls_trust_pool", "versions",
    "write_buffer", "write_timeout"])]

/-- Names with the directive in whose block each belongs. Other blocks take a few of them too. -/
def homes : Array (String × String) := #[
  ("alpn", "tls"), ("br", "encode"), ("buffer_requests", "reverse_proxy"),
  ("buffer_responses", "reverse_proxy"), ("ca", "tls"), ("ca_root", "tls"), ("ciphers", "tls"),
  ("client_auth", "tls"), ("curves", "tls"), ("dns", "tls"), ("eab", "tls"),
  ("flush_interval", "reverse_proxy"), ("format", "log"), ("get_certificate", "tls"),
  ("gzip", "encode"), ("handle_response", "reverse_proxy"), ("header_down", "reverse_proxy"),
  ("header_up", "reverse_proxy"), ("health_body", "reverse_proxy"),
  ("health_interval", "reverse_proxy"), ("health_port", "reverse_proxy"),
  ("health_status", "reverse_proxy"), ("health_timeout", "reverse_proxy"),
  ("health_uri", "reverse_proxy"), ("key_type", "tls"), ("lb_policy", "reverse_proxy"),
  ("lb_retries", "reverse_proxy"), ("lb_try_duration", "reverse_proxy"),
  ("lb_try_interval", "reverse_proxy"), ("level", "log"), ("load", "tls"),
  ("max_buffer_size", "reverse_proxy"), ("max_fails", "reverse_proxy"), ("on_demand", "tls"),
  ("output", "log"), ("protocols", "tls"), ("replace_status", "reverse_proxy"),
  ("resolvers", "tls"), ("to", "reverse_proxy"), ("transport", "reverse_proxy"),
  ("trusted_proxies", "reverse_proxy"), ("unhealthy_latency", "reverse_proxy"),
  ("unhealthy_status", "reverse_proxy"), ("zstd", "encode")]

def isSiteDirective (name : String) : Bool :=
  Sorted.contains siteDirectives name

def isGlobalOption (name : String) : Bool :=
  Sorted.contains globalOptions name

def isContainer (name : String) : Bool :=
  Sorted.contains containers name

def bodyOf (name : String) : Body :=
  (Sorted.lookup bodies name).getD .unmodeled

def nestedNames? (name arg : String) : Option (Array String) :=
  Sorted.lookup nestedBodies ⟨name, arg⟩

def home? (name : String) : Option String :=
  Sorted.lookup homes name

end Vocabulary

end Caddyfile
