import Caddyfile.Sorted

/-!
# What the names mean

Short descriptions in Markdown for directives and common subdirectives, in ascending order of the
names. They are shown when the cursor rests on a name.
-/

namespace Caddyfile

namespace Manual

def entries : Array (String × String) := #[
  ("abort",
    "**abort**\n\nCloses the connection without writing a response."),
  ("acme_server",
    "**acme_server** `[<matcher>]`\n\nRuns an embedded ACME server backed by a local certificate authority."),
  ("basicauth",
    "**basicauth** `[<matcher>] [<hash_algorithm> [<realm>]]`\n\nRequires HTTP basic authentication. The body lists `<username> <hashed_password>` pairs."),
  ("bind",
    "**bind** `<hosts...>`\n\nOverrides the interfaces the site's listener binds to."),
  ("browse",
    "**browse** `[<template_file>]`\n\nInside `file_server`: list directory contents when no index file exists."),
  ("dial_timeout",
    "**dial_timeout** `<duration>`\n\nInside a `transport http` block: how long to wait when connecting to an upstream."),
  ("encode",
    "**encode** `[<matcher>] <formats...>`\n\nCompresses responses with the listed encodings, such as `zstd` and `gzip`."),
  ("error",
    "**error** `[<matcher>] <status>|<message> [<status>]`\n\nTriggers an error that is handled by `handle_errors`."),
  ("file_server",
    "**file_server** `[<matcher>] [browse]`\n\nServes static files from the site root."),
  ("format",
    "**format** `<encoder> ...`\n\nInside `log`: selects how log entries are encoded, for example `json` or `console`."),
  ("forward_auth",
    "**forward_auth** `[<matcher>] <upstreams...>`\n\nAsks an external service to authorize each request before it continues."),
  ("gzip",
    "**gzip** `[<level>]`\n\nInside `encode`: enables gzip compression."),
  ("handle",
    "**handle** `[<matcher>]`\n\nA mutually exclusive group of directives. Only the first matching `handle` block runs."),
  ("handle_errors",
    "**handle_errors** `[<status_codes...>]`\n\nDirectives that run when an earlier handler returns an error."),
  ("handle_path",
    "**handle_path** `<path_matcher>`\n\nLike `handle`, but strips the matched path prefix first."),
  ("header",
    "**header** `[<matcher>] [[+|-|?|>]<field> [<value>|<find>] [<replace>]]`\n\nSets, adds, or deletes response headers."),
  ("header_up",
    "**header_up** `[+|-]<field> [<value>|<find> <replace>]`\n\nInside `reverse_proxy`: manipulates the headers sent to the upstream."),
  ("health_uri",
    "**health_uri** `<uri>`\n\nInside `reverse_proxy`: enables active health checks against this URI."),
  ("import",
    "**import** `<pattern>|<snippet> [<args...>]`\n\nIncludes a snippet by name, or other files by path or glob."),
  ("intercept",
    "**intercept** `[<matcher>]`\n\nHandles responses from later handlers, for example to replace upstream errors."),
  ("invoke",
    "**invoke** `[<matcher>] <route_name>`\n\nRuns a named route defined in the global options."),
  ("lb_policy",
    "**lb_policy** `<name> [<options...>]`\n\nInside `reverse_proxy`: chooses how requests are spread across upstreams."),
  ("local_certs",
    "**local_certs**\n\nIssues certificates for this site from the local certificate authority."),
  ("log",
    "**log** `[<logger_name>]`\n\nEnables access logging for the site."),
  ("log_append",
    "**log_append** `[<matcher>] <field> <value>`\n\nAdds a field to the access log entry for matching requests."),
  ("log_name",
    "**log_name** `[<matcher>] <names...>`\n\nSelects which logger records matching requests."),
  ("log_skip",
    "**log_skip** `[<matcher>]`\n\nSkips access logging for matching requests."),
  ("map",
    "**map** `[<matcher>] <source> <destinations...>`\n\nMaps an input value to one or more output placeholders."),
  ("max_size",
    "**max_size** `<size>`\n\nInside `request_body`: rejects request bodies larger than this."),
  ("method",
    "**method** `[<matcher>] <method>`\n\nChanges the HTTP method of the request."),
  ("metrics",
    "**metrics** `[<matcher>]`\n\nServes Prometheus metrics."),
  ("output",
    "**output** `<writer> ...`\n\nInside `log`: where log entries are written, for example `file` or `stderr`."),
  ("php_fastcgi",
    "**php_fastcgi** `[<matcher>] <php-fpm_gateways...>`\n\nProxies requests to a PHP FastCGI server with sensible defaults for PHP sites."),
  ("protocols",
    "**protocols** `<min> [<max>]`\n\nInside `tls`: the allowed TLS protocol versions."),
  ("push",
    "**push** `[<matcher>] [<resource>]`\n\nConfigures HTTP/2 server push."),
  ("redir",
    "**redir** `[<matcher>] <to> [<code>]`\n\nRedirects the client to another URL."),
  ("request_body",
    "**request_body** `[<matcher>]`\n\nManipulates or limits the request body."),
  ("request_header",
    "**request_header** `[<matcher>] [[+|-]<field> [<value>|<find>] [<replace>]]`\n\nSets, adds, or deletes request headers."),
  ("respond",
    "**respond** `[<matcher>] <status>|<body> [<status>]`\n\nWrites a hard-coded response."),
  ("reverse_proxy",
    "**reverse_proxy** `[<matcher>] [<upstreams...>]`\n\nProxies requests to one or more upstreams, with load balancing and health checks."),
  ("rewrite",
    "**rewrite** `[<matcher>] <to>`\n\nRewrites the request URI internally."),
  ("root",
    "**root** `[<matcher>] <path>`\n\nSets the site root used by `file_server` and other handlers."),
  ("route",
    "**route** `[<matcher>]`\n\nRuns the enclosed directives in the order written instead of the default order."),
  ("templates",
    "**templates** `[<matcher>]`\n\nExecutes responses as Go templates."),
  ("tls",
    "**tls** `internal|<email>|<cert_file> <key_file>`\n\nConfigures TLS for the site."),
  ("to",
    "**to** `<upstreams...>`\n\nInside `reverse_proxy`: the upstream addresses."),
  ("tracing",
    "**tracing** `[<matcher>]`\n\nEnables OpenTelemetry tracing."),
  ("transport",
    "**transport** `<type>`\n\nInside `reverse_proxy`: how to talk to upstreams, for example `http` or `fastcgi`."),
  ("try_files",
    "**try_files** `<files...>`\n\nRewrites the request to the first file in the list that exists."),
  ("uri",
    "**uri** `[<matcher>] strip_prefix|strip_suffix|replace|path_regexp ...`\n\nManipulates the request URI."),
  ("vars",
    "**vars** `[<matcher>] [<name> <value>]`\n\nSets variables for the rest of the request."),
  ("zstd",
    "**zstd**\n\nInside `encode`: enables Zstandard compression.")]

def lookup (name : String) : Option String :=
  Sorted.lookup entries name

end Manual

end Caddyfile
